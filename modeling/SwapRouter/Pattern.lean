import SwapRouter.Text.Half

/-!
# Patterns of names

Tables name protocols by patterns: `*` stands for any text, `?` for one character, and a
list in brackets for one character of the list, or for one outside it after `!`.  A list
may hold ranges; one that runs downwards is taken out before anything else is read, so
that it may uncover a `!`.  A bracket that is never closed stands for itself.  What fits is
told by code points, so a half of a pair fits like a character.
-/

namespace SwapRouter

open Text (CodePoint)

namespace Pattern

/-- The code point of `*`. -/
@[match_pattern] def star : CodePoint := 0x2A

/-- The code point of `?`. -/
@[match_pattern] def questionMark : CodePoint := 0x3F

/-- The code point of `[`. -/
@[match_pattern] def opening : CodePoint := 0x5B

/-- The code point of `]`. -/
@[match_pattern] def closing : CodePoint := 0x5D

/-- The code point of `!`. -/
@[match_pattern] def exclamationMark : CodePoint := 0x21

/-- The code point of `-`. -/
@[match_pattern] def hyphen : CodePoint := 0x2D

end Pattern

/-- One piece of a pattern. -/
inductive Pattern.Piece where
  | anyText
  | anyChar
  | literal (c : CodePoint)
  | oneOf (ranges : List (CodePoint × CodePoint))
  | noneOf (ranges : List (CodePoint × CodePoint))
  deriving DecidableEq, Repr

namespace Pattern

/-- Cuts a list at the hyphens that make ranges.  A hyphen among the first `skip`
characters makes none, and neither does one at the end. -/
def cutRanges : Nat → Nat → List CodePoint → List (List CodePoint)
  | 0, _, cs => [cs]
  | steps + 1, skip, cs =>
    let tail := cs.drop skip
    match tail.dropWhile (· ≠ hyphen) with
    | [] => [cs]
    | _ :: rest =>
      let part := cs.take skip ++ tail.takeWhile (· ≠ hyphen)
      if rest.isEmpty then [part ++ [hyphen]] else part :: cutRanges steps 2 rest

/-- Joins two neighbouring parts whose range would run downwards, without its ends. -/
def dropEmptyRange (part : List CodePoint) : List (List CodePoint) → List (List CodePoint)
  | [] => [part]
  | next :: parts =>
    match part.getLast?, next.head? with
    | some last, some first =>
      if first < last then (part.dropLast ++ next.tail) :: parts else part :: next :: parts
    | _, _ => part :: next :: parts

/-- The ranges between neighbouring parts; every other character is a range of its own, and
so is a hyphen with nothing in front. -/
def rangesOf : List CodePoint → List (List CodePoint) → List (CodePoint × CodePoint)
  | part, [] => part.map fun c => (c, c)
  | part, next :: parts =>
    match part.getLast?, next.head? with
    | some last, some first =>
      part.dropLast.map (fun c => (c, c)) ++ (last, first) :: rangesOf next.tail parts
    | _, _ => (hyphen, hyphen) :: rangesOf next parts

/-- How many characters at the front of a list cannot be a hyphen that makes a range, and
cannot be the bracket that closes the list. -/
def headLength : List CodePoint → Nat
  | exclamationMark :: _ => 2
  | _ => 1

/-- The piece of a bracketed list. -/
def listPiece (body : List CodePoint) : Piece :=
  match (cutRanges body.length (headLength body) body).foldr dropEmptyRange [] with
  | [] => .oneOf []
  | (exclamationMark :: part) :: parts => .noneOf (rangesOf part parts)
  | part :: parts => .oneOf (rangesOf part parts)

/-- Splits a bracketed list off behind its opening bracket: its characters, and what
follows the closing bracket. -/
def bracketed? (cs : List CodePoint) : Option (List CodePoint × List CodePoint) :=
  let tail := cs.drop (headLength cs)
  match tail.dropWhile (· ≠ closing) with
  | [] => none
  | _ :: rest => some (cs.take (headLength cs) ++ tail.takeWhile (· ≠ closing), rest)

/-- The pieces of a pattern; as many steps as characters are enough. -/
def pieces : Nat → List CodePoint → List Piece
  | 0, _ => []
  | _, [] => []
  | steps + 1, star :: rest => .anyText :: pieces steps rest
  | steps + 1, questionMark :: rest => .anyChar :: pieces steps rest
  | steps + 1, opening :: rest =>
    match bracketed? rest with
    | some (body, rest) => listPiece body :: pieces steps rest
    | none => .literal opening :: pieces steps rest
  | steps + 1, c :: rest => .literal c :: pieces steps rest

/-- Whether a piece other than `*` accepts a character. -/
def Piece.accepts : Piece → CodePoint → Bool
  | .anyText, _ => false
  | .anyChar, _ => true
  | .literal c, d => c = d
  | .oneOf ranges, d => ranges.any fun (first, last) => first ≤ d && d ≤ last
  | .noneOf ranges, d => !ranges.any fun (first, last) => first ≤ d && d ≤ last

/-- Whether the whole of a text fits the pieces, by trying every text for a `*`. -/
def fits : List Piece → List CodePoint → Bool
  | [], cs => cs.isEmpty
  | .anyText :: ps, [] => fits ps []
  | .anyText :: ps, c :: cs => fits ps (c :: cs) || fits (.anyText :: ps) cs
  | _ :: _, [] => false
  | p :: ps, c :: cs => p.accepts c && fits ps cs
termination_by ps cs => (ps.length, cs.length)

/-! ## All ends of a text at once

Trying every text for every `*` takes too long.  The pieces are therefore taken from the
last one on, and for each of them it is kept which ends of the text fit from there.
-/

/-- What holds of a text and of each of its ends, down to the empty one. -/
def along (holds : List CodePoint → Bool) : List CodePoint → List Bool
  | [] => [holds []]
  | c :: cs => holds (c :: cs) :: along holds cs

/-- Which ends of a text fit once a piece is put in front of pieces that fit the ends in
`row`. -/
def Piece.extend (p : Piece) : List CodePoint → List Bool → List Bool
  | c :: cs, fit :: row =>
    let rest := p.extend cs row
    (if p = .anyText then fit || rest.headD false else p.accepts c && row.headD false) :: rest
  | _, row => if p = .anyText then row else row.map fun _ => false

/-- Which ends of a text fit the pieces. -/
def fittingEnds (ps : List Piece) (cs : List CodePoint) : List Bool :=
  ps.foldr (fun p row => p.extend cs row) (along List.isEmpty cs)

theorem headD_along (holds : List CodePoint → Bool) (cs : List CodePoint) :
    (along holds cs).headD false = holds cs := by
  cases cs <;> rfl

/-- A piece in front of others. -/
theorem extend_along (p : Piece) (ps : List Piece) (cs : List CodePoint) :
    p.extend cs (along (fits ps) cs) = along (fits (p :: ps)) cs := by
  induction cs with
  | nil =>
    by_cases h : p = .anyText
    · subst h; simp [along, Piece.extend, fits]
    · cases p <;> simp_all [along, Piece.extend, fits]
  | cons c cs ih =>
    by_cases h : p = .anyText
    · subst h
      simp only [along, Piece.extend, ih, headD_along, if_true, fits]
    · simp only [along, Piece.extend, ih, headD_along, h, if_false]
      cases p <;> simp_all [fits]

/-- The ends that fit are found one piece at a time. -/
theorem fittingEnds_eq_along (ps : List Piece) (cs : List CodePoint) :
    fittingEnds ps cs = along (fits ps) cs := by
  induction ps with
  | nil =>
    have empty : fits [] = List.isEmpty := by funext cs; simp [fits]
    simp [fittingEnds, empty]
  | cons p ps ih =>
    simp only [fittingEnds] at ih
    simp only [fittingEnds, List.foldr_cons, ih, extend_along]

end Pattern

/-- Whether a name fits a pattern. -/
def fitsPattern (pattern name : String) : Bool :=
  let cs := Text.codes pattern
  (Pattern.fittingEnds (Pattern.pieces cs.length cs) (Text.codes name)).headD false

/-- A name fits a pattern if its code points fit the pieces. -/
theorem fitsPattern_eq (pattern name : String) :
    fitsPattern pattern name =
      Pattern.fits (Pattern.pieces (Text.codes pattern).length (Text.codes pattern))
        (Text.codes name) := by
  simp only [fitsPattern, Pattern.fittingEnds_eq_along, Pattern.headD_along]

/-- Whether a pattern of a table names a protocol: it is the name itself, or it has a
`*` and the name fits it. -/
def namesProtocol (pattern protocol : String) : Bool :=
  pattern = protocol || ((Text.codes pattern).contains Pattern.star && fitsPattern pattern protocol)

end SwapRouter
