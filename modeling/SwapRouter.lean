import SwapRouter.Abi.Basic
import SwapRouter.Abi.Signature
import SwapRouter.Address
import SwapRouter.Approval
import SwapRouter.Binary64.Basic
import SwapRouter.Binary64.Numeral
import SwapRouter.Binary64.Shortest
import SwapRouter.Bytes
import SwapRouter.Capabilities
import SwapRouter.Chain
import SwapRouter.ChainReader
import SwapRouter.CommandLine.Arguments
import SwapRouter.CommandLine.Run
import SwapRouter.Concurrent
import SwapRouter.Config.Basic
import SwapRouter.Config.Bundled
import SwapRouter.Config.Tables
import SwapRouter.Course
import SwapRouter.Decimal
import SwapRouter.Error
import SwapRouter.Fault
import SwapRouter.Files
import SwapRouter.Json.Basic
import SwapRouter.Json.Printer
import SwapRouter.Json.Reader
import SwapRouter.Keccak
import SwapRouter.Main
import SwapRouter.Order.Basic
import SwapRouter.Order.Input
import SwapRouter.Order.Printer
import SwapRouter.Order.Reader
import SwapRouter.Pattern
import SwapRouter.Permit
import SwapRouter.Proofs.Abi.RoundTrip
import SwapRouter.Proofs.Abi.Signature
import SwapRouter.Proofs.Abi.Size
import SwapRouter.Proofs.Approval.Flag
import SwapRouter.Proofs.Approval.Order
import SwapRouter.Proofs.Batch
import SwapRouter.Proofs.Chunks
import SwapRouter.Proofs.Codec
import SwapRouter.Proofs.Concurrent
import SwapRouter.Proofs.Config.Classes
import SwapRouter.Proofs.Config.Load
import SwapRouter.Proofs.Config.Shape
import SwapRouter.Proofs.Decimal
import SwapRouter.Proofs.Finish
import SwapRouter.Proofs.FixedWidth
import SwapRouter.Proofs.Fraction
import SwapRouter.Proofs.FractionSum
import SwapRouter.Proofs.FrontEnd.Agreement
import SwapRouter.Proofs.FrontEnd.Printed
import SwapRouter.Proofs.FrontEnd.Utf8
import SwapRouter.Proofs.HexNumber
import SwapRouter.Proofs.JsonNames
import SwapRouter.Proofs.JsonRoom
import SwapRouter.Proofs.LeastAmount
import SwapRouter.Proofs.LeastAmountOrder
import SwapRouter.Proofs.LookUp.Call
import SwapRouter.Proofs.LookUp.Direct
import SwapRouter.Proofs.LookUp.Ending
import SwapRouter.Proofs.LookUp.Events
import SwapRouter.Proofs.LookUp.Instant
import SwapRouter.Proofs.LookUp.Malformed
import SwapRouter.Proofs.LookUp.NormalForm
import SwapRouter.Proofs.LookUp.Once
import SwapRouter.Proofs.LookUp.Shape
import SwapRouter.Proofs.Order.Fields
import SwapRouter.Proofs.Order.Names
import SwapRouter.Proofs.Order.Respelled
import SwapRouter.Proofs.Order.RoundTrip
import SwapRouter.Proofs.Order.Spelling
import SwapRouter.Proofs.Outcome
import SwapRouter.Proofs.OutputMode
import SwapRouter.Proofs.Pattern
import SwapRouter.Proofs.Permit.Binding
import SwapRouter.Proofs.Permit.Digest
import SwapRouter.Proofs.Permit.Funding
import SwapRouter.Proofs.Permit.Refusal
import SwapRouter.Proofs.Permit.Signed
import SwapRouter.Proofs.Quote.Asked
import SwapRouter.Proofs.Quote.Call
import SwapRouter.Proofs.Reason.Address
import SwapRouter.Proofs.Reason.Basic
import SwapRouter.Proofs.Reason.Call
import SwapRouter.Proofs.Reason.Order
import SwapRouter.Proofs.Reason.Outside
import SwapRouter.Proofs.Reason.Setup
import SwapRouter.Proofs.Reason.Venue
import SwapRouter.Proofs.Route.Accepted
import SwapRouter.Proofs.Route.Apart
import SwapRouter.Proofs.Route.Connection
import SwapRouter.Proofs.Route.Custody
import SwapRouter.Proofs.Route.Cycle
import SwapRouter.Proofs.Route.Dispatch
import SwapRouter.Proofs.Route.Flow
import SwapRouter.Proofs.Route.Grouped
import SwapRouter.Proofs.Route.Grouping
import SwapRouter.Proofs.Route.HopChunks
import SwapRouter.Proofs.Route.HopHeader
import SwapRouter.Proofs.Route.HopRest
import SwapRouter.Proofs.Route.HopSum
import SwapRouter.Proofs.Route.Join
import SwapRouter.Proofs.Route.Line
import SwapRouter.Proofs.Route.Plain
import SwapRouter.Proofs.Route.Remainder
import SwapRouter.Proofs.Route.Repeats
import SwapRouter.Proofs.Route.Search
import SwapRouter.Proofs.Route.TokenCount
import SwapRouter.Proofs.Route.TokenTable
import SwapRouter.Proofs.Route.Walk
import SwapRouter.Proofs.RouterCall
import SwapRouter.Proofs.Shortest
import SwapRouter.Proofs.Venue.PoolSwap
import SwapRouter.Proofs.Venue.PooledGroup
import SwapRouter.Proofs.Venue.SwapData
import SwapRouter.Proofs.Wire
import SwapRouter.Quote
import SwapRouter.Reading
import SwapRouter.Report
import SwapRouter.Rounding
import SwapRouter.Route.Group
import SwapRouter.Route.Outgoing
import SwapRouter.Route.Path
import SwapRouter.Route.Shape
import SwapRouter.Route.Split
import SwapRouter.Route.TokenTable
import SwapRouter.Route.Transfer
import SwapRouter.Router
import SwapRouter.RouterCall
import SwapRouter.Secp256k1
import SwapRouter.Service
import SwapRouter.Session
import SwapRouter.Settings
import SwapRouter.Sha256
import SwapRouter.Strategy
import SwapRouter.Surroundings
import SwapRouter.Text.Blank
import SwapRouter.Text.Case
import SwapRouter.Text.Digit
import SwapRouter.Text.Encoding
import SwapRouter.Text.Half
import SwapRouter.Text.Integer
import SwapRouter.Text.Label
import SwapRouter.Text.Mark
import SwapRouter.Text.Quoted
import SwapRouter.Text.Script
import SwapRouter.Text.Sigma
import SwapRouter.Uint256
import SwapRouter.Url.Basic
import SwapRouter.Url.DomainName
import SwapRouter.Url.Escape
import SwapRouter.Url.Host
import SwapRouter.Url.Punycode
import SwapRouter.Venue.BalancerV2
import SwapRouter.Venue.Context
import SwapRouter.Venue.Registry
import SwapRouter.Venue.Rfq
import SwapRouter.Venue.Slipstreams
import SwapRouter.Venue.UniswapV2
import SwapRouter.Venue.UniswapV3
import SwapRouter.Venue.UniswapV4
import SwapRouter.Wire
