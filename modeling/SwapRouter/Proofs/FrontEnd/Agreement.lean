import SwapRouter.CommandLine.Run
import SwapRouter.Proofs.Batch
import SwapRouter.Proofs.FrontEnd.Printed
import SwapRouter.Proofs.Reason.Setup
import SwapRouter.Proofs.RouterCall
import SwapRouter.Service

/-!
# The command line and the service agree

Solutions reach the encoder in two ways: a run of the command line reads them from its input, and the
service takes them from the body of a post.  Both read the same value, since the bytes of a text are read
as the text; both look for the list under the same name and read it alike; and both set the encoder up
from the same surroundings, which succeeds for every chain with the tables that come with the program.
What is left to differ is how the outcome is told.

Where calls may only be nested so deep, an end may have no room for all levels of the value.  A run then
ends in a defect, and the service says that there is something wrong with the body.  Neither of them comes
to the solutions, so there is no outcome to agree on if this befalls both; if it befalls one, the ends
differ.

Transactions are told alike: their addresses are well formed, so that what a run prints is read back as
the value that the service sends.  A failure is told alike where it can be told at all.  The wording of a
failure may quote a text of the solutions, and a text may hold half of a surrogate pair, which has no form
in UTF-8.  The service cannot send it; and no end can report a fault of the form whose wording holds one.

* `CommandLine.read_report`: what a run prints is read back as its transactions.
* `FrontEnd.SameAnswers`, `FrontEnd.isTellable`: what agreement is, and what it takes.
* `FrontEnd.sameAnswers_iff`: **both ends agree exactly if they have room for the value and can tell the
  failure of a list**, or have both no room.
-/

namespace SwapRouter

/-! ## Transactions as they are printed -/

namespace RouterEncoder

variable {r : RouterEncoder} {c : Circumstances}

/-- A transaction that is made has a well-formed address to go to. -/
theorem isWellFormed_target {o : Order} {tx : Transaction} {approvals : Option ApprovalSource}
    (h : (r.encodeOrder approvals o).outcome c = .ok tx) : tx.target.isWellFormed = true := by
  obtain ⟨-, router, f, e, -, -, -, htx⟩ := outcome_encodeOrder_eq_ok_iff.1 h
  obtain ⟨hformed, htarget, -⟩ := target_of_transaction htx
  rw [htarget]
  exact Address.isWellFormed_normal hformed

end RouterEncoder

theorem Bytes.toNat_lt_of_mem_toHex {bs : Bytes} {c : Char} (hc : c ∈ bs.toHex.toList) :
    c.toNat < Text.halfOffset := by
  rw [toHex, String.toList_ofList, List.mem_cons, List.mem_cons] at hc
  rcases hc with rfl | rfl | hc
  · decide
  · decide
  · exact (Text.StandsInNumeral.digit (of_isHexDigit (isHexDigit_of_mem_digits hc)).1).toNat_lt

namespace Json

theorem IsPlain.ofList {α : Type} {toJson : α → Json} {values : List α}
    (h : ∀ a ∈ values, (toJson a).IsPlain) : (Json.ofList toJson values).IsPlain :=
  .arr (List.forall_mem_map.2 h)

/-- A transaction with a well-formed address is printed as it is. -/
theorem isPlain_transaction {tx : Transaction} (h : tx.target.isWellFormed = true) :
    tx.toJson.IsPlain := by
  have htarget : tx.target.toJson.IsPlain :=
    .str (Text.isJoined_of_lt (Address.toNat_lt_of_isWellFormed h))
  have hshort : (Nat.toDigits 10 tx.value.toNat).length ≤ 78 :=
    (Nat.length_toDigits_le_iff (by decide) (by decide)).2 (tx.value.isLt.trans (by decide))
  have hvalue : tx.value.toJson.IsPlain := .nat _ (hshort.trans (by decide))
  have hdata : tx.data.toJson.IsPlain :=
    .str (Text.isJoined_of_lt fun c hc => Bytes.toNat_lt_of_mem_toHex hc)
  rw [Transaction.toJson, isPlain_obj_iff]
  refine ⟨(by decide : ["to", "value", "data"].Nodup), ?_⟩
  simp only [List.forall_mem_cons]
  exact ⟨⟨by decide, htarget⟩, ⟨by decide, hvalue⟩, ⟨by decide, hdata⟩,
    fun _ h => absurd h List.not_mem_nil⟩

end Json

/-- The value of the transactions of several solutions. -/
def Transaction.listsToJson (lists : List (List Transaction)) : Json :=
  .ofList (Json.ofList Transaction.toJson) lists

/-- What a computation comes to in a session. -/
theorem Encode.fst_run {α : Type} (x : Encode α) (s : Session) :
    (x.run s).1 = x.outcome (x.foreseen { known := s.known }) := rfl

/-- **What a run prints is read back** as the value of its transactions. -/
theorem CommandLine.read_report {r : RouterEncoder} {solutions : List Solution} {s : Session}
    {lists : List (List Transaction)} (h : ((r.encodeSolutions solutions).run s).1 = .ok lists) :
    Json.read (report lists) = .ok (Transaction.listsToJson lists) := by
  rw [Encode.fst_run, RouterEncoder.outcome_encodeSolutions_eq_ok_iff] at h
  have hplain : (Transaction.listsToJson lists).IsPlain := by
    refine .ofList fun transactions htransactions => .ofList fun tx htx => ?_
    obtain ⟨s, hs⟩ := exists_forall₂_iff.1 ⟨_, List.Forall₂.flip h⟩ transactions htransactions
    obtain ⟨o, ho⟩ := exists_forall₂_iff.1 ⟨_, List.Forall₂.flip hs⟩ tx htx
    exact Json.isPlain_transaction (RouterEncoder.isWellFormed_target ho)
  have hend : Json.AreGaps ['\n'] := by simp [Json.AreGaps, Json.isGap]
  exact hplain.read_toText (.indented 2) hend

/-! ## What both ends are given -/

namespace FrontEnd

/-- A request posts a text to the encoder of ethereum: as JSON, with headers in ASCII, and within the
size that is taken. -/
structure Posts (r : HttpRequest) (text : String) : Prop where
  method : r.method = "POST"
  path : r.path = "/ethereum/encode"
  headers : Service.areHeadersPlain r = true
  isJson : Service.isJson r = true
  size : Service.isTooLarge r = .ok false
  body : r.body = Text.utf8Bytes text

/-- A text of characters with a list of solutions is the input of a run of the command line for ethereum,
without tables, signer and router of its own, and is posted to a service that serves ethereum; both have
the same surroundings. -/
structure GivenToBoth (around : Surroundings) (words : List String) (text : String) (s : Service)
    (r : HttpRequest) (list : Json) : Prop where
  words : ∃ verbose, Arguments.ofWords words = .ok ⟨.ethereum, none, none, none, verbose⟩
  service : Service.ofSurroundings around = .ok s
  served : s.served.contains "ethereum" = true
  posts : Posts r text
  chars : ∃ chars, text = Text.ofChars chars
  text : ∃ fields, Json.read text = .ok (.obj fields) ∧ fields.lookup "solutions" = some list

/-- There is room for all levels of the value in a text. -/
def HasRoom (room : Option ℕ) (text : String) : Prop := ∃ j, Json.read text room = .ok j

variable {around : Surroundings} {words : List String} {text : String} {s : Service}
  {r : HttpRequest} {list : Json} {fields : List (String × Json)} {solutions : List Solution}
  {faults : List Fault} {room : Option ℕ} {encoder : RouterEncoder}

/-! ## What they come to -/

/-- The path of the request leads to the encoder of ethereum. -/
theorem exists_url :
    ∃ url, (Url.parse? "/ethereum/encode").bind Service.base.resolve = some url ∧
      Service.Place.ofPath? url.plainPath.toList = some (.encode "ethereum") := by
  have hrun : ((Url.parse? "/ethereum/encode").bind Service.base.resolve).map
      (fun url => Service.Place.ofPath? url.plainPath.toList) = some (some (.encode "ethereum")) := by
    decide +kernel
  exact Option.map_eq_some_iff.1 hrun

/-- **A post is answered at the place of the encoder.** -/
theorem Posts.answer_eq (h : Posts r text) : s.answer r = s.answerAt r (.encode "ethereum") := by
  obtain ⟨url, hurl, hplace⟩ := exists_url
  have hmethod : Text.uppercase "POST" = "POST" := by decide +kernel
  unfold Service.answer
  rw [h.path, hurl, h.headers, h.size, h.method, hmethod]
  have hplaced : s.answerPath r "POST" url.plainPath.toList = s.answerAt r (.encode "ethereum") := by
    unfold Service.answerPath
    rw [hplace]
    exact if_pos (by decide)
  have hhead : ¬ "POST" = "HEAD" := by decide
  have hsmall : (Except.ok false : Except Failure Bool) = pure false := rfl
  simp only [pure_bind, hsmall, Bool.not_true, Bool.false_eq_true, if_false, hplaced, if_neg hhead]
  exact bind_pure _

/-! ## Room for the value -/

/-- Where the text is not read, its levels lack room. -/
theorem GivenToBoth.read_eq_tooDeep (h : GivenToBoth around words text s r list)
    (hroom : ¬ HasRoom room text) : Json.read text room = .error .tooDeep := by
  obtain ⟨fields, hread, -⟩ := h.text
  exact (Json.read_eq_ok_or_tooDeep hread room).resolve_left fun hok => hroom ⟨_, hok⟩

/-- Where there is room for the text, it is read as an object with the list. -/
theorem GivenToBoth.exists_fields (h : GivenToBoth around words text s r list)
    (hroom : HasRoom room text) :
    ∃ fields, Json.read text room = .ok (.obj fields) ∧ fields.lookup "solutions" = some list := by
  obtain ⟨fields, hread, hfield⟩ := h.text
  rcases Json.read_eq_ok_or_tooDeep hread room with hok | hdeep
  · exact ⟨fields, hok, hfield⟩
  · obtain ⟨j, hj⟩ := hroom
    cases hj.symm.trans hdeep

/-- **The body of the request is read like the text.** -/
theorem GivenToBoth.readSent_eq (h : GivenToBoth around words text s r list) (room : Option ℕ) :
    Json.readSent r.body room = Json.read text room := by
  obtain ⟨fields, hread, -⟩ := h.text
  obtain ⟨chars, rfl⟩ := h.chars
  rw [h.posts.body, Json.readSent_utf8Bytes hread]

theorem GivenToBoth.body_ne_nil (h : GivenToBoth around words text s r list) : r.body ≠ [] := by
  intro hnil
  obtain ⟨fields, hread, -⟩ := h.text
  have hempty : (Json.readSent []).toOption.isNone = true := by decide +kernel
  rw [← hnil, h.readSent_eq, hread] at hempty
  cases hempty

/-- A body for which there is room is the object with the list. -/
theorem GivenToBoth.bodyOf_of_read (h : GivenToBoth around words text s r list)
    (hread : Json.read text room = .ok (.obj fields)) : Service.bodyOf r room = .json (.obj fields) := by
  rw [Service.bodyOf, if_neg h.body_ne_nil, h.posts.isJson, if_pos rfl, h.readSent_eq, hread]

/-- **A body for which there is no room** is answered like one that is no text. -/
theorem GivenToBoth.answer_of_tooDeep (h : GivenToBoth around words text s r list)
    (hroom : ¬ HasRoom s.room text) :
    s.answer r = .ok (Service.plainly 400 "There was an error parsing the body") := by
  rw [h.posts.answer_eq, Service.answerAt, Service.bodyOf, if_neg h.body_ne_nil, h.posts.isJson,
    if_pos rfl, h.readSent_eq, h.read_eq_tooDeep hroom]

/-- **The encoder of ethereum answers** with the faults of a body, or with what the encoding comes to. -/
theorem GivenToBoth.exists_encoder (h : GivenToBoth around words text s r list) :
    ∃ encoder, RouterEncoder.ofSurroundings around .ethereum = .ok encoder ∧
      ∀ value, s.encodePosted "ethereum" value = match Service.readBody value with
        | .refused faults => Service.faulty faults
        | .ok solutions => Service.encode encoder solutions := by
  have hservice := h.service
  unfold Service.ofSurroundings at hservice
  obtain ⟨settings, hsettings, hservice⟩ := bind_eq_ok_iff.1 hservice
  obtain ⟨encoder, hencoder⟩ := RouterEncoder.exists_ofSurroundings hsettings .ethereum
  refine ⟨encoder, hencoder, fun value => ?_⟩
  have hserved := h.served
  cases hservice
  have hlower : Text.lowercase "ethereum" = "ethereum" := by decide +kernel
  have hchain : Chain.all.find? (fun chain => chain.name = "ethereum") = some .ethereum := by
    decide +kernel
  unfold Service.encodePosted
  dsimp only at hserved ⊢
  rw [hlower, hchain]
  dsimp only
  rw [if_pos hserved, hencoder]
  rfl

/-- The reader of a body moves the faults of the list into its field. -/
theorem readBody_obj (hlist : fields.lookup "solutions" = some list) :
    Service.readBody (some (.obj fields)) = (Reading.list Solution.read list).within "solutions" := by
  unfold Service.readBody Reading.record Reading.withDefault
  dsimp only
  rw [hlist]

/-- Where a fault was found does not matter to whether it can be reported. -/
theorem any_isUnreportable_within (name : String) (faults : List Fault) :
    (faults.map (Fault.within name)).any Fault.isUnreportable = faults.any Fault.isUnreportable := by
  rw [List.any_map]
  rfl

/-- How a run ends with what the encoding comes to. -/
def endOf : Except Failure (List (List Transaction)) → Except Failure CommandLine.Outcome
  | .ok transactions => .ok (.printed (CommandLine.report transactions))
  | .error (.encoding e) => .ok (.refused e)
  | .error failure => .error failure

theorem run_of_words {a : Arguments} (h : Arguments.ofWords words = .ok a) :
    CommandLine.run around words text = endOf (CommandLine.transactions around a text) := by
  rw [CommandLine.run, h]
  dsimp only
  rcases CommandLine.transactions around a text with (_ | _ | _ | _) | _ <;> rfl

/-- What a run reads in the value of a list. -/
def solutionsOf (list : Json) : Except Failure (List Solution) :=
  match Reading.list Solution.read list with
  | .ok solutions => .ok solutions
  | .refused faults =>
    .error (.ofFaults (fun faults => .encoding (.malformedSolution faults)) faults)

theorem listOfText_of_read {j : Json} (h : Json.read text room = .ok j) :
    Solution.listOfText text room = solutionsOf (Solution.listed j) := by
  rw [Solution.listOfText, h]
  rfl

theorem GivenToBoth.listOfText_eq (h : GivenToBoth around words text s r list)
    (hroom : HasRoom room text) : Solution.listOfText text room = solutionsOf list := by
  obtain ⟨fields, hread, hfield⟩ := h.exists_fields hroom
  rw [listOfText_of_read hread, Solution.listed, hfield, Option.getD_some]

/-- **The list in an object is read like the list alone**, if there is room for both or for neither. -/
theorem GivenToBoth.listOfText_alone (h : GivenToBoth around words text s r list) {items : List Json}
    {alone : String} (hlist : list = .arr items) (halone : Json.read alone = .ok (.arr items))
    (hroom : HasRoom room alone ↔ HasRoom room text) :
    Solution.listOfText alone room = Solution.listOfText text room := by
  rcases Json.read_eq_ok_or_tooDeep halone room with hread | hdeep
  · rw [h.listOfText_eq (hroom.1 ⟨_, hread⟩), listOfText_of_read hread, hlist]
    rfl
  · have hnone : ¬ HasRoom room text := fun htext => by
      obtain ⟨j, hj⟩ := hroom.2 htext
      cases hdeep.symm.trans hj
    rw [Solution.listOfText, hdeep, Solution.listOfText, h.read_eq_tooDeep hnone]

/-- **A run without room** ends in a defect. -/
theorem GivenToBoth.run_of_tooDeep (h : GivenToBoth around words text s r list)
    (hroom : ¬ HasRoom around.rooms.input text) :
    CommandLine.run around words text = .error .defect := by
  obtain ⟨verbose, hwords⟩ := h.words
  rw [run_of_words hwords, CommandLine.transactions, Solution.listOfText, h.read_eq_tooDeep hroom]
  rfl

/-- **How a run ends with a list that is refused.** -/
theorem GivenToBoth.run_of_refused (h : GivenToBoth around words text s r list)
    (hroom : HasRoom around.rooms.input text)
    (hlist : Reading.list Solution.read list = .refused faults) :
    CommandLine.run around words text = if faults.any Fault.isUnreportable then .error .defect
      else .ok (.refused (.malformedSolution faults)) := by
  obtain ⟨verbose, hwords⟩ := h.words
  have hrun : CommandLine.transactions around ⟨.ethereum, none, none, none, verbose⟩ text =
      .error (.ofFaults (fun faults => .encoding (.malformedSolution faults)) faults) := by
    unfold CommandLine.transactions
    rw [h.listOfText_eq hroom, solutionsOf, hlist]
    rfl
  rw [run_of_words hwords, hrun, Failure.ofFaults]
  split <;> rfl

/-- **How the service answers a list that is refused.** -/
theorem GivenToBoth.answer_of_refused (h : GivenToBoth around words text s r list)
    (hroom : HasRoom s.room text) (hlist : Reading.list Solution.read list = .refused faults) :
    ∃ detail, s.answer r = if faults.any Fault.isUnreportable then .error .defect
      else .ok ⟨400, some (Service.refusal .invalidInput detail)⟩ := by
  obtain ⟨fields, hread, hfield⟩ := h.exists_fields hroom
  obtain ⟨encoder, -, hposted⟩ := h.exists_encoder
  have hanswer : s.answer r = Service.faulty (faults.map (Fault.within "solutions")) := by
    rw [h.posts.answer_eq, Service.answerAt, h.bodyOf_of_read hread]
    dsimp only
    rw [hposted, readBody_obj hfield, hlist]
    rfl
  exact ⟨_, by rw [hanswer, Service.faulty, any_isUnreportable_within]⟩

/-- **How a run ends with a list that is read.** -/
theorem GivenToBoth.run_of_read (h : GivenToBoth around words text s r list)
    (hroom : HasRoom around.rooms.input text)
    (hlist : Reading.list Solution.read list = .ok solutions)
    (hencoder : RouterEncoder.ofSurroundings around .ethereum = .ok encoder) :
    CommandLine.run around words text = endOf ((encoder.encodeSolutions solutions).run {}).1 := by
  obtain ⟨verbose, hwords⟩ := h.words
  rw [run_of_words hwords]
  unfold CommandLine.transactions
  rw [h.listOfText_eq hroom, solutionsOf, hlist]
  dsimp only
  rw [Option.map_none, hencoder]
  rfl

/-- **How the service answers a list that is read.** -/
theorem GivenToBoth.answer_of_read (h : GivenToBoth around words text s r list)
    (hroom : HasRoom s.room text) (hlist : Reading.list Solution.read list = .ok solutions)
    (hencoder : RouterEncoder.ofSurroundings around .ethereum = .ok encoder) :
    s.answer r = Service.encode encoder solutions := by
  obtain ⟨fields, hread, hfield⟩ := h.exists_fields hroom
  obtain ⟨encoder', hencoder', hposted⟩ := h.exists_encoder
  cases hencoder.symm.trans hencoder'
  rw [h.posts.answer_eq, Service.answerAt, h.bodyOf_of_read hread]
  dsimp only
  rw [hposted, readBody_obj hfield, hlist]
  rfl

/-! ## Agreement -/

/-- The solutions in a list fail with a kind: their form is refused, or their encoding is. -/
inductive FailsWith (around : Surroundings) (list : Json) : ErrorKind → Prop
  | form {faults : List Fault} (h : Reading.list Solution.read list = .refused faults) :
    FailsWith around list .invalidInput
  | encoding {solutions : List Solution} {encoder : RouterEncoder} {e : EncodingError}
    (hlist : Reading.list Solution.read list = .ok solutions)
    (hencoder : RouterEncoder.ofSurroundings around .ethereum = .ok encoder)
    (h : ((encoder.encodeSolutions solutions).run {}).1 = .error (.encoding e)) :
    FailsWith around list e.kind

/-- The solutions in a list come to something that is told: their transactions, or a failure with a
kind. -/
inductive IsTold (around : Surroundings) (list : Json) : Prop
  | encodes {solutions : List Solution} {encoder : RouterEncoder} {lists : List (List Transaction)}
    (hlist : Reading.list Solution.read list = .ok solutions)
    (hencoder : RouterEncoder.ofSurroundings around .ethereum = .ok encoder)
    (h : ((encoder.encodeSolutions solutions).run {}).1 = .ok lists) : IsTold around list
  | fails {kind : ErrorKind} (h : FailsWith around list kind) : IsTold around list

/-- Both ends agree.  A run prints transactions exactly if the service answers with them; and a failure to
which one of them comes is reported by the run, and answered with the status of its kind. -/
structure SameAnswers (around : Surroundings) (words : List String) (text : String) (s : Service)
    (r : HttpRequest) (list : Json) : Prop where
  succeeds : ∀ j,
    (∃ o, CommandLine.run around words text = .ok o ∧ o.exitCode = 0 ∧ Json.read o.output = .ok j) ↔
      s.answer r = .ok ⟨200, some (.obj [("transactions", j)])⟩
  fails : ∀ kind, FailsWith around list kind →
    HasRoom around.rooms.input text ∨ HasRoom s.room text →
    (∃ e, CommandLine.run around words text = .ok (.refused e) ∧
      (CommandLine.Outcome.refused e).exitCode = 1 ∧ e.kind = kind) ∧
    ∃ detail, s.answer r = .ok ⟨kind.status, some (Service.refusal kind detail)⟩

/-- Whether no half of a pair stands in the wording of a failure, if it has one. -/
def isWorded : Failure → Bool
  | .encoding e => !Text.hasHalf e.message
  | _ => true

/-- Whether both ends can tell the failure of a list, if it fails. -/
def isTellable (around : Surroundings) (list : Json) : Bool :=
  match Reading.list Solution.read list with
  | .refused faults => !faults.any Fault.isUnreportable
  | .ok solutions => match RouterEncoder.ofSurroundings around .ethereum with
    | .error _ => true
    | .ok encoder => match ((encoder.encodeSolutions solutions).run {}).1 with
      | .ok _ => true
      | .error failure => isWorded failure

theorem isTellable_of_refused (hlist : Reading.list Solution.read list = .refused faults) :
    isTellable around list = !faults.any Fault.isUnreportable := by
  rw [isTellable, hlist]

theorem isTellable_of_error {failure : Failure}
    (hlist : Reading.list Solution.read list = .ok solutions)
    (hencoder : RouterEncoder.ofSurroundings around .ethereum = .ok encoder)
    (hfailure : ((encoder.encodeSolutions solutions).run {}).1 = .error failure) :
    isTellable around list = isWorded failure := by
  rw [isTellable, hlist, hencoder]
  dsimp only
  rw [hfailure]

theorem isTellable_of_ok {lists : List (List Transaction)}
    (hlist : Reading.list Solution.read list = .ok solutions)
    (hencoder : RouterEncoder.ofSurroundings around .ethereum = .ok encoder)
    (hlists : ((encoder.encodeSolutions solutions).run {}).1 = .ok lists) :
    isTellable around list = true := by
  rw [isTellable, hlist, hencoder]
  dsimp only
  rw [hlists]

/-- A refusal is no success. -/
theorem status_ne (kind : ErrorKind) : kind.status ≠ 200 := by
  cases kind <;> decide

/-- A list that is refused has no other failure. -/
theorem FailsWith.kind_of_refused {kind : ErrorKind} (h : FailsWith around list kind)
    (hlist : Reading.list Solution.read list = .refused faults) : kind = .invalidInput := by
  cases h with
  | form => rfl
  | encoding hread => cases hread.symm.trans hlist

/-- The failure of a list that is read is that of its encoding. -/
theorem FailsWith.exists_error {kind : ErrorKind} (h : FailsWith around list kind)
    (hlist : Reading.list Solution.read list = .ok solutions)
    (hencoder : RouterEncoder.ofSurroundings around .ethereum = .ok encoder) :
    ∃ e : EncodingError,
      ((encoder.encodeSolutions solutions).run {}).1 = .error (.encoding e) ∧ e.kind = kind := by
  cases h with
  | form hform => cases hform.symm.trans hlist
  | encoding hread hencoder' he =>
    cases hread.symm.trans hlist
    cases hencoder.symm.trans hencoder'
    exact ⟨_, he, rfl⟩

/-! ## What agreement takes -/

/-- **An end without room differs from one with room**, if there is something to tell. -/
theorem SameAnswers.hasRoom_iff (h : SameAnswers around words text s r list)
    (hgiven : GivenToBoth around words text s r list) (htold : IsTold around list) :
    HasRoom around.rooms.input text ↔ HasRoom s.room text := by
  cases htold with
  | encodes hlist hencoder hlists =>
    have hread := CommandLine.read_report hlists
    constructor
    · intro hroom
      have hrun := hgiven.run_of_read hroom hlist hencoder
      rw [hlists] at hrun
      have hanswer := (h.succeeds _).1 ⟨_, hrun, rfl, hread⟩
      by_contra hnone
      cases (hgiven.answer_of_tooDeep hnone).symm.trans hanswer
    · intro hroom
      have hanswer := hgiven.answer_of_read hroom hlist hencoder
      rw [Service.encode, hlists] at hanswer
      obtain ⟨o, hrun, -⟩ := (h.succeeds _).2 hanswer
      by_contra hnone
      cases (hgiven.run_of_tooDeep hnone).symm.trans hrun
  | fails hfails =>
    constructor
    · intro hroom
      obtain ⟨-, detail, hanswer⟩ := h.fails _ hfails (Or.inl hroom)
      by_contra hnone
      have hplain := Except.ok.inj ((hgiven.answer_of_tooDeep hnone).symm.trans hanswer)
      have hbody := congrArg HttpResponse.body hplain
      simp [Service.plainly, Service.refusal] at hbody
    · intro hroom
      obtain ⟨⟨e, hrun, -⟩, -⟩ := h.fails _ hfails (Or.inr hroom)
      by_contra hnone
      cases (hgiven.run_of_tooDeep hnone).symm.trans hrun

/-- **What is agreed on can be told**, if both ends have room. -/
theorem SameAnswers.isTellable (h : SameAnswers around words text s r list)
    (hgiven : GivenToBoth around words text s r list)
    (hinput : HasRoom around.rooms.input text) (hbody : HasRoom s.room text) :
    isTellable around list = true := by
  cases hlist : Reading.list Solution.read list with
  | refused faults =>
    obtain ⟨⟨e, hrun, -⟩, -⟩ := h.fails _ (.form hlist) (Or.inl hinput)
    rw [isTellable_of_refused hlist, Bool.not_eq_true']
    by_contra hfaults
    rw [Bool.not_eq_false] at hfaults
    rw [hgiven.run_of_refused hinput hlist, if_pos hfaults] at hrun
    cases hrun
  | ok solutions =>
    obtain ⟨encoder, hencoder, -⟩ := hgiven.exists_encoder
    cases hrun : ((encoder.encodeSolutions solutions).run {}).1 with
    | ok lists => exact isTellable_of_ok hlist hencoder hrun
    | error failure =>
      rw [isTellable_of_error hlist hencoder hrun]
      cases failure with
      | encoding e =>
        obtain ⟨-, detail, hanswer⟩ := h.fails _ (.encoding hlist hencoder hrun) (Or.inl hinput)
        rw [isWorded, Bool.not_eq_true']
        by_contra hhalf
        rw [Bool.not_eq_false] at hhalf
        rw [hgiven.answer_of_read hbody hlist hencoder, Service.encode, hrun] at hanswer
        dsimp only at hanswer
        rw [if_pos hhalf] at hanswer
        cases hanswer
      | value | record | defect => rfl

/-! ## When both ends agree -/

/-- Both ends agree on a list that is refused. -/
theorem GivenToBoth.sameAnswers_of_refused (h : GivenToBoth around words text s r list)
    (hinput : HasRoom around.rooms.input text) (hbody : HasRoom s.room text)
    (hlist : Reading.list Solution.read list = .refused faults)
    (hfaults : faults.any Fault.isUnreportable = false) :
    SameAnswers around words text s r list := by
  have hrun := h.run_of_refused hinput hlist
  obtain ⟨detail, hanswer⟩ := h.answer_of_refused hbody hlist
  rw [hfaults, if_neg Bool.false_ne_true] at hrun hanswer
  constructor
  case succeeds =>
    intro j
    rw [hrun, hanswer]
    constructor
    · rintro ⟨o, ho, hexit, -⟩
      cases ho
      cases hexit
    · rintro ⟨⟩
  case fails =>
    intro kind hkind _
    cases hkind.kind_of_refused hlist
    exact ⟨⟨_, hrun, rfl, rfl⟩, detail, hanswer⟩

/-- Both ends agree on a list whose solutions are encoded. -/
theorem GivenToBoth.sameAnswers_of_encodes (h : GivenToBoth around words text s r list)
    (hinput : HasRoom around.rooms.input text) (hbody : HasRoom s.room text)
    {lists : List (List Transaction)} (hlist : Reading.list Solution.read list = .ok solutions)
    (hencoder : RouterEncoder.ofSurroundings around .ethereum = .ok encoder)
    (hlists : ((encoder.encodeSolutions solutions).run {}).1 = .ok lists) :
    SameAnswers around words text s r list := by
  have hrun := h.run_of_read hinput hlist hencoder
  have hanswer := h.answer_of_read hbody hlist hencoder
  rw [hlists] at hrun
  rw [Service.encode, hlists] at hanswer
  have hreport : Json.read (CommandLine.report lists) = .ok (Transaction.listsToJson lists) :=
    CommandLine.read_report hlists
  constructor
  case succeeds =>
    intro j
    rw [hrun, hanswer]
    constructor
    · rintro ⟨o, ho, -, hj⟩
      cases ho
      cases hreport.symm.trans hj
      rfl
    · rintro ⟨⟩
      exact ⟨_, rfl, rfl, hreport⟩
  case fails =>
    intro kind hkind _
    obtain ⟨e, he, -⟩ := hkind.exists_error hlist hencoder
    cases hlists.symm.trans he

/-- Both ends agree on a list whose encoding is refused for a reason that can be sent. -/
theorem GivenToBoth.sameAnswers_of_fails (h : GivenToBoth around words text s r list)
    (hinput : HasRoom around.rooms.input text) (hbody : HasRoom s.room text) {e : EncodingError}
    (hlist : Reading.list Solution.read list = .ok solutions)
    (hencoder : RouterEncoder.ofSurroundings around .ethereum = .ok encoder)
    (he : ((encoder.encodeSolutions solutions).run {}).1 = .error (.encoding e))
    (hworded : Text.hasHalf e.message = false) : SameAnswers around words text s r list := by
  have hrun := h.run_of_read hinput hlist hencoder
  have hanswer := h.answer_of_read hbody hlist hencoder
  rw [he] at hrun
  rw [Service.encode, he] at hanswer
  dsimp only at hanswer
  rw [hworded, if_neg Bool.false_ne_true] at hanswer
  constructor
  case succeeds =>
    intro j
    refine iff_of_false ?_ fun hok => ?_
    · rintro ⟨o, ho, hexit, -⟩
      cases hrun.symm.trans ho
      cases hexit
    · exact status_ne e.kind (congrArg HttpResponse.status (Except.ok.inj (hanswer.symm.trans hok)))
  case fails =>
    intro kind hkind _
    obtain ⟨e', he', rfl⟩ := hkind.exists_error hlist hencoder
    cases he.symm.trans he'
    exact ⟨⟨e, hrun, rfl, rfl⟩, _, hanswer⟩

/-- Neither end comes to transactions where nothing is told or there is no room: a run ends without an
outcome, and the service answers without transactions. -/
theorem sameAnswers_of_silence (hrun : ∀ o, CommandLine.run around words text ≠ .ok o)
    (hanswer : ∀ j, s.answer r ≠ .ok ⟨200, some (.obj [("transactions", j)])⟩)
    (hfails : ∀ kind, FailsWith around list kind →
      ¬ (HasRoom around.rooms.input text ∨ HasRoom s.room text)) :
    SameAnswers around words text s r list where
  succeeds j := iff_of_false (fun ⟨o, ho, _⟩ => hrun o ho) (hanswer j)
  fails kind hkind hroom := absurd hroom (hfails kind hkind)

/-- Both ends agree if neither of them has room. -/
theorem GivenToBoth.sameAnswers_of_tooDeep (h : GivenToBoth around words text s r list)
    (hinput : ¬ HasRoom around.rooms.input text) (hbody : ¬ HasRoom s.room text) :
    SameAnswers around words text s r list := by
  refine sameAnswers_of_silence (fun o ho => ?_) (fun j hj => ?_) fun _ _ => not_or.2 ⟨hinput, hbody⟩
  · cases (h.run_of_tooDeep hinput).symm.trans ho
  · cases (h.answer_of_tooDeep hbody).symm.trans hj

/-- Both ends agree on a list that comes to nothing that is told. -/
theorem GivenToBoth.sameAnswers_of_not_isTold (h : GivenToBoth around words text s r list)
    (htold : ¬ IsTold around list) : SameAnswers around words text s r list := by
  have hfails (kind : ErrorKind) (hkind : FailsWith around list kind) : False := htold (.fails hkind)
  cases hlist : Reading.list Solution.read list with
  | refused faults => exact (hfails _ (.form hlist)).elim
  | ok solutions =>
    obtain ⟨encoder, hencoder, -⟩ := h.exists_encoder
    refine sameAnswers_of_silence (fun o ho => ?_) (fun j hj => ?_)
      fun kind hkind => (hfails kind hkind).elim
    · by_cases hroom : HasRoom around.rooms.input text
      · rw [h.run_of_read hroom hlist hencoder] at ho
        cases hrun : ((encoder.encodeSolutions solutions).run {}).1 with
        | ok lists => exact htold (.encodes hlist hencoder hrun)
        | error failure =>
          rw [hrun] at ho
          cases failure with
          | encoding e => exact hfails _ (.encoding hlist hencoder hrun)
          | value | record | defect => cases ho
      · cases (h.run_of_tooDeep hroom).symm.trans ho
    · by_cases hroom : HasRoom s.room text
      · rw [h.answer_of_read hroom hlist hencoder, Service.encode] at hj
        cases hrun : ((encoder.encodeSolutions solutions).run {}).1 with
        | ok lists => exact htold (.encodes hlist hencoder hrun)
        | error failure =>
          rw [hrun] at hj
          cases failure with
          | encoding e => exact hfails _ (.encoding hlist hencoder hrun)
          | value | record | defect => cases hj
      · cases (h.answer_of_tooDeep hroom).symm.trans hj

/-- Both ends agree on a list that they can tell, if they have room. -/
theorem GivenToBoth.sameAnswers_of_isTellable (h : GivenToBoth around words text s r list)
    (hinput : HasRoom around.rooms.input text) (hbody : HasRoom s.room text)
    (htold : IsTold around list) (htellable : isTellable around list = true) :
    SameAnswers around words text s r list := by
  cases htold with
  | encodes hlist hencoder hlists => exact h.sameAnswers_of_encodes hinput hbody hlist hencoder hlists
  | fails hfails =>
    cases hfails with
    | form hlist =>
      rw [isTellable_of_refused hlist, Bool.not_eq_true'] at htellable
      exact h.sameAnswers_of_refused hinput hbody hlist htellable
    | encoding hlist hencoder he =>
      rw [isTellable_of_error hlist hencoder he, isWorded, Bool.not_eq_true'] at htellable
      exact h.sameAnswers_of_fails hinput hbody hlist hencoder he htellable

/-- **When both ends agree.**  For each text with a list of solutions, whatever stands in the list and
whatever the surroundings are: if the list comes to something that is told, they agree exactly if one end
has room for the value where the other one has, and they can tell what it comes to where they have; and
if it does not, they agree.  The list alone is read as the list in its object, where there is room for
both. -/
theorem sameAnswers_iff (h : GivenToBoth around words text s r list) :
    (SameAnswers around words text s r list ↔ (IsTold around list →
      (HasRoom around.rooms.input text ↔ HasRoom s.room text) ∧
        (HasRoom around.rooms.input text → isTellable around list = true))) ∧
    ∀ room items alone, list = .arr items → Json.read alone = .ok (.arr items) →
      (HasRoom room alone ↔ HasRoom room text) →
      Solution.listOfText alone room = Solution.listOfText text room := by
  refine ⟨⟨fun hsame htold => ?_, fun hcond => ?_⟩, fun room items alone hlist halone hroom =>
    h.listOfText_alone hlist halone hroom⟩
  · have hiff := hsame.hasRoom_iff h htold
    exact ⟨hiff, fun hinput => hsame.isTellable h hinput (hiff.1 hinput)⟩
  · by_cases htold : IsTold around list
    · obtain ⟨hiff, htellable⟩ := hcond htold
      by_cases hinput : HasRoom around.rooms.input text
      · exact h.sameAnswers_of_isTellable hinput (hiff.1 hinput) htold (htellable hinput)
      · exact h.sameAnswers_of_tooDeep hinput fun hbody => hinput (hiff.2 hbody)
    · exact h.sameAnswers_of_not_isTold htold

end FrontEnd

namespace Sample

open FrontEnd

/-- A list of solutions: WETH is sold for DAI in a pool of a protocol. -/
def saleList (protocol : String) : Json := .arr [.obj [("orders", .arr [.obj [
  ("given_token", weth.toJson), ("given_amount", .int 1000),
  ("checked_token", dai.toJson), ("check_amount", .int 1),
  ("sender", user.toJson), ("receiver", user.toJson), ("add_router_calldata", .bool false),
  ("swaps", .arr [.obj [
    ("component", .obj [("id", .str daiWeth.id), ("protocol_system", .str protocol)]),
    ("token_in", weth.toJson), ("token_out", dai.toJson)]])]])]]

/-- The text of an object with a list of solutions. -/
def solutionsText (list : Json) : String := (Json.obj [("solutions", list)]).toText .inline

/-- The request that posts a text. -/
def post (text : String) : HttpRequest := { path := "/ethereum/encode", body := Text.utf8Bytes text }

theorem isPlain_saleList {protocol : String} (h : Text.IsJoined protocol) :
    (saleList protocol).IsPlain := by
  have hweth : weth.toJson.IsPlain := .str (by decide)
  have hdai : dai.toJson.IsPlain := .str (by decide)
  have huser : user.toJson.IsPlain := .str (by decide)
  have hgiven : (Json.int 1000).IsPlain := .nat 1000 (by decide)
  have hchecked : (Json.int 1).IsPlain := .nat 1 (by decide)
  simp +decide [saleList, Json.names, h, hweth, hdai, huser, hgiven, hchecked, Json.IsPlain.bool]

/-- The request posts its text, if this is not too large. -/
theorem posts_post {text : String} (hsize : (Text.utf8Bytes text).length ≤ Service.maxBodySize) :
    Posts (post text) text where
  method := rfl
  path := rfl
  headers := rfl
  isJson := rfl
  size := congrArg Except.ok (decide_eq_false (Int.not_lt.2 hsize))
  body := rfl

/-- A list that is printed is given to both ends, with room for all its levels. -/
theorem exists_givenToBoth {list : Json} (hplain : list.IsPlain)
    (hascii : (Json.write .inline 0 (.obj [("solutions", list)])).all fun c => c.toNat < 0x80)
    (hlength : (Json.write .inline 0 (.obj [("solutions", list)])).length ≤ Service.maxBodySize) :
    ∃ s, GivenToBoth {} ["--chain", "ethereum"] (solutionsText list) s (post (solutionsText list))
      list ∧ HasRoom ({} : Surroundings).rooms.input (solutionsText list) ∧
        HasRoom s.room (solutionsText list) := by
  have hservice : (Service.ofSurroundings {}).toOption.map (fun s =>
      (s.served.contains "ethereum", s.room)) = some (true, none) := by decide +kernel
  obtain ⟨s, hs, hserved⟩ := Option.map_eq_some_iff.1 hservice
  obtain ⟨hserved, hroom⟩ := Prod.mk.inj hserved
  have hwords : (Arguments.ofWords ["--chain", "ethereum"]).toOption =
      some ⟨.ethereum, none, none, none, false⟩ := by decide +kernel
  have hobject : (Json.obj [("solutions", list)]).IsPlain := by
    simp +decide [Json.names, hplain]
  have hread : Json.read (solutionsText list) = .ok (.obj [("solutions", list)]) := by
    have h := hobject.read_toText .inline (show Json.AreGaps [] from List.forall_mem_nil _)
    rwa [String.ofList_nil, String.append_empty] at h
  have hascii : ∀ c ∈ Json.write .inline 0 (.obj [("solutions", list)]), c.toNat < 0x80 :=
    fun c hc => of_decide_eq_true (List.all_eq_true.1 hascii c hc)
  have hchars : solutionsText list =
      Text.ofChars (Json.write .inline 0 (.obj [("solutions", list)])) := by
    have h := Text.ofChars_toList (s := solutionsText list) fun c hc => by
      rw [solutionsText, Json.toText, String.toList_ofList] at hc
      exact (hascii c hc).trans (by decide)
    rw [← h, solutionsText, Json.toText, String.toList_ofList]
  have hposts : Posts (post (solutionsText list)) (solutionsText list) := by
    refine posts_post ?_
    rwa [hchars, Text.utf8Bytes_ofChars, Text.length_flatMap_utf8EncodeChar hascii]
  have hinput : HasRoom none (solutionsText list) := ⟨_, hread⟩
  refine ⟨s, ⟨⟨false, eq_ok_of_toOption_eq_some hwords⟩, eq_ok_of_toOption_eq_some hs, hserved, hposts,
    ⟨_, hchars⟩, _, hread, rfl⟩, hinput, ?_⟩
  rwa [hroom]

/-- Both ends give the same transaction for the sale in a pool. -/
theorem sameAnswers_sale : ∃ s, GivenToBoth {} ["--chain", "ethereum"]
      (solutionsText (saleList "uniswap_v2")) s (post (solutionsText (saleList "uniswap_v2")))
      (saleList "uniswap_v2") ∧
    SameAnswers {} ["--chain", "ethereum"] (solutionsText (saleList "uniswap_v2")) s
      (post (solutionsText (saleList "uniswap_v2"))) (saleList "uniswap_v2") := by
  obtain ⟨s, hgiven, hinput, hbody⟩ := exists_givenToBoth
    (isPlain_saleList (by decide : Text.IsJoined "uniswap_v2")) (by decide +kernel) (by decide +kernel)
  refine ⟨s, hgiven, (sameAnswers_iff hgiven).1.2 fun _ => ⟨iff_of_true hinput hbody, fun _ => ?_⟩⟩
  decide +kernel

/-- The name of a protocol: half of a surrogate pair. -/
def halvedName : String := String.ofList [Text.ofUnit 0xD800]

/-- Both ends do not agree on the sale with that protocol: the run reports that it is not known, and the
service cannot send the report. -/
theorem not_sameAnswers_halvedName : ∃ s, GivenToBoth {} ["--chain", "ethereum"]
      (solutionsText (saleList halvedName)) s (post (solutionsText (saleList halvedName)))
      (saleList halvedName) ∧
    ¬ SameAnswers {} ["--chain", "ethereum"] (solutionsText (saleList halvedName)) s
      (post (solutionsText (saleList halvedName))) (saleList halvedName) := by
  obtain ⟨s, hgiven, hinput, hbody⟩ := exists_givenToBoth
    (isPlain_saleList (by decide +kernel : Text.IsJoined halvedName)) (by decide +kernel)
    (by decide +kernel)
  have huntold : isTellable {} (saleList halvedName) = false := by decide +kernel
  refine ⟨s, hgiven, fun h => ?_⟩
  rw [h.isTellable hgiven hinput hbody] at huntold
  cases huntold

end Sample

end SwapRouter
