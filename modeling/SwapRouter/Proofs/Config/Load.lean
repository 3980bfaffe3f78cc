import SwapRouter.Proofs.Config.Classes
import SwapRouter.Proofs.Reason.Setup

/-!
# Loading a setup

The setup of a chain is put together from three tables, each of which may come from a file.  They are read
one after the other, and the first one that is refused ends the loading: nothing is known then of the
files behind it, and nothing needs to be.

A setup that is loaded can be used as it is.  A setup that is not should be refused for a reason, whatever
the files hold.  That is so for files that are missing, for texts that are no JSON, and for addresses that
are none; but a table of the wrong shape is a defect, and so are a whole number of too many digits and
values that are nested too deep, which are no mistakes of the JSON.

* `Config.IsSound`: what holds of every setup that is loaded.
* `Config.IsReadable`, `Config.TablesFit`: **what is asked of the files**, table by table.
* `Config.endsCleanly_load_iff`: **loading ends with a sound setup or a reason exactly if the tables fit.**
-/

namespace SwapRouter

namespace Config

variable {files : Files} {path usualName : String} {path? : Option String} {table : Json}
  {paths : TablePaths} {chain : Chain} {room : Option ℕ} {α : Type} {usual : α} {ofJson : Json → Except Failure α}

/-! ## Files -/

/-- There is no defect in trying to read a file: its path is made of the letters of paths, and what is
first wrong with its text is a mistake of the JSON, and neither a whole number of too many digits nor a
value for whose levels there is no room. -/
structure IsReadable (files : Files) (room : Option ℕ) (path : String) : Prop where
  isPath : (Text.letters path).all Files.isPathLetter = true
  text : ∀ text fault, files.read path = .ok text → Json.read text room = .error fault →
    fault = .malformed

/-- The text of a file holds a table. -/
def HoldsTable (files : Files) (room : Option ℕ) (path : String) (table : Json) : Prop :=
  ∃ text, files.read path = .ok text ∧ Json.read text room = .ok table

theorem ne_malformed_of_walk {p : Place} {parts : List PathPart} {fault : PathFault}
    (h : files.walk p parts = .error fault) : fault ≠ .malformed := by
  induction parts generalizing p with
  | nil => cases h
  | cons part parts ih =>
    rw [Files.walk] at h
    split at h
    · split at h
      · cases h
        decide
      · exact ih h
    · split at h <;> cases h <;> decide

/-- A path is at fault by itself only where it has letters that no path has. -/
theorem read_eq_malformed_iff :
    files.read path = .error .malformed ↔ (Text.letters path).all Files.isPathLetter = false := by
  rw [Files.read]
  split
  next h => exact iff_of_true rfl (by simpa using h)
  next h =>
    rw [Bool.not_eq_true', Bool.not_eq_false] at h
    rw [h]
    refine iff_of_false (fun hread => ?_) Bool.noConfusion
    split at hread
    · cases hread
    · split at hread
      next fault hwalk => exact ne_malformed_of_walk hwalk (Except.error.inj hread)
      next =>
        split at hread
        · cases hread
        · split at hread <;> cases hread

/-- **A table is read from a file**, or refused for a reason, exactly if the file is readable. -/
theorem failsFatally_readTable_iff :
    FailsFatally (readTable files path usualName room) ↔ IsReadable files room path := by
  unfold readTable
  dsimp only
  split
  next hmalformed =>
    refine iff_of_false not_failsFatally_defect fun h => ?_
    rw [read_eq_malformed_iff, h.isPath] at hmalformed
    cases hmalformed
  next fault hne hfault =>
    refine iff_of_true (failsFatally_encoding rfl) ⟨?_, fun text fault' htext => ?_⟩
    · rw [← Bool.not_eq_false, ← read_eq_malformed_iff, hfault]
      exact fun h => hne (Except.error.inj h)
    · rw [hfault] at htext
      cases htext
  next text htext =>
    have hpath : (Text.letters path).all Files.isPathLetter = true := by
      rw [← Bool.not_eq_false, ← read_eq_malformed_iff, htext]
      exact fun h => by cases h
    split
    next table htable =>
      refine iff_of_true (failsFatally_ok table) ⟨hpath, fun text' fault htext' hfault => ?_⟩
      rw [Except.ok.inj (htext'.symm.trans htext), htable] at hfault
      cases hfault
    next hmalformed =>
      refine iff_of_true (failsFatally_encoding rfl) ⟨hpath, fun text' fault htext' hfault => ?_⟩
      rw [Except.ok.inj (htext'.symm.trans htext), hmalformed] at hfault
      exact (Except.error.inj hfault).symm
    next fault hne hfault =>
      refine iff_of_false not_failsFatally_defect fun h => ?_
      exact hne (h.text text fault htext hfault ▸ rfl)

theorem readTable_eq_ok_iff :
    readTable files path usualName room = .ok table ↔ HoldsTable files room path table := by
  unfold readTable HoldsTable
  dsimp only
  split
  next hmalformed =>
    exact iff_of_false (fun h => by cases h) fun ⟨text, htext, _⟩ => by
      rw [hmalformed] at htext
      cases htext
  next fault _ hfault =>
    exact iff_of_false (fun h => by cases h) fun ⟨text, htext, _⟩ => by
      rw [hfault] at htext
      cases htext
  next text htext =>
    have htexts : (∃ text', files.read path = .ok text' ∧ Json.read text' room = .ok table) ↔
        Json.read text room = .ok table :=
      ⟨fun ⟨text', htext', h⟩ => Except.ok.inj (htext'.symm.trans htext) ▸ h, fun h => ⟨text, htext, h⟩⟩
    rw [htexts]
    split
    next found hfound => rw [hfound, Except.ok.injEq, Except.ok.injEq]
    next h => exact iff_of_false (fun h => by cases h) fun h' => by rw [h] at h'; cases h'
    next h => exact iff_of_false (fun h => by cases h) fun h' => by rw [h] at h'; cases h'

/-! ## Tables from files -/

/-- What is read from the table in a file, or what the program has in its place. -/
def fromFile (files : Files) (room : Option ℕ) (path? : Option String) (usualName : String) (usual : α)
    (ofJson : Json → Except Failure α) : Except Failure α :=
  match path? with
  | some path => readTable files path usualName room >>= ofJson
  | none => .ok usual

/-- A file, if there is one, is readable, and the table in it fits. -/
def FileFits (files : Files) (room : Option ℕ) (fits : Json → Prop) (path? : Option String) : Prop :=
  ∀ path ∈ path?, IsReadable files room path ∧ ∀ table, HoldsTable files room path table → fits table

theorem failsFatally_fromFile_iff {fits : Json → Prop}
    (h : ∀ table, FailsFatally (ofJson table) ↔ fits table) :
    FailsFatally (fromFile files room path? usualName usual ofJson) ↔ FileFits files room fits path? := by
  cases path? with
  | none => exact iff_of_true (failsFatally_ok usual) fun path hpath => absurd hpath (Option.not_mem_none _)
  | some path =>
    have hfits : FileFits files room fits (some path) ↔
        IsReadable files room path ∧ ∀ table, HoldsTable files room path table → fits table :=
      ⟨fun h => h path rfl, fun h path' hpath' => Option.some.inj hpath' ▸ h⟩
    rw [hfits, fromFile, failsFatally_bind_iff, failsFatally_readTable_iff]
    simp only [readTable_eq_ok_iff, h]

/-- What holds of what is read holds of what comes from a file. -/
theorem of_fromFile {P : α → Prop} {a : α} (h : fromFile files room path? usualName usual ofJson = .ok a)
    (husual : P usual) (hread : ∀ table a, ofJson table = .ok a → P a) : P a := by
  cases path? with
  | none =>
    cases h
    exact husual
  | some path =>
    obtain ⟨table, -, h⟩ := bind_eq_ok_iff.1 h
    exact hread table a h

/-! ## Setups -/

/-- The executors of a chain. -/
def executorsFrom (files : Files) (paths : TablePaths) (chain : Chain) (room : Option ℕ) :
    Except Failure (List (String × Address)) :=
  fromFile files room paths.executors "executor_addresses.json" (bundled chain).executors
    (executorsOf chain)

/-- The router of a chain. -/
def routerFrom (files : Files) (paths : TablePaths) (chain : Chain) (room : Option ℕ) :
    Except Failure (Option Address) :=
  fromFile files room paths.routers "router_addresses.json" (bundled chain).router (routerOf chain)

/-- The classification of the protocols. -/
def capabilitiesFrom (files : Files) (paths : TablePaths) (chain : Chain) (room : Option ℕ) :
    Except Failure Capabilities :=
  fromFile files room paths.capabilities "protocol_capabilities.json" (bundled chain).capabilities
    Capabilities.ofJson

/-- **A setup is put together from three tables**, one after the other. -/
theorem load_eq : load files paths chain room =
    executorsFrom files paths chain room >>= fun executors =>
      routerFrom files paths chain room >>= fun router =>
        capabilitiesFrom files paths chain room >>= fun capabilities =>
          .ok ⟨chain, executors, router, (bundled chain).settings, capabilities⟩ := by
  unfold load executorsFrom routerFrom capabilitiesFrom fromFile
  cases paths.executors <;> cases paths.routers <;> cases paths.capabilities <;>
    simp only [bind_assoc] <;> rfl

/-- **A setup can be used as it is**: its addresses are well formed and in their normal form, and no
protocol is in two sets that exclude each other. -/
structure IsSound (config : Config) : Prop where
  executors : ∀ entry ∈ config.executors, IsUsable entry.2
  router : ∀ a ∈ config.router, IsUsable a
  capabilities : config.capabilities.IsApart

/-- The tables that come with the program make a sound setup. -/
theorem isSound_bundled (chain : Chain) : (bundled chain).IsSound := by
  have hexact := isExact_bundled chain
  have hexecutors : ((bundled chain).executors.all fun entry =>
      entry.2.text.toList.all fun c => decide (Text.lowerAscii c = c)) = true := by
    cases chain <;> decide +kernel
  have hrouter : ((bundled chain).router.all fun a =>
      a.text.toList.all fun c => decide (Text.lowerAscii c = c)) = true := by
    cases chain <;> decide +kernel
  have husable (a : Address) (h : a.IsExact)
      (hlower : (a.text.toList.all fun c => decide (Text.lowerAscii c = c)) = true) : IsUsable a :=
    ⟨h.wellFormed, Address.normal_eq_self h.wellFormed fun c hc =>
      of_decide_eq_true (List.all_eq_true.1 hlower c hc)⟩
  refine ⟨fun entry hentry => ?_, fun a ha => ?_, (bundled chain).capabilities.isConsistent,
    fun j hj => absurd hj List.not_mem_nil⟩
  · exact husable _ (hexact.executors entry hentry) (List.all_eq_true.1 hexecutors entry hentry)
  · exact husable a (hexact.router a ha) ((Option.all_eq_true _ _).1 hrouter a ha)

/-- **Every setup that is loaded is sound.** -/
theorem isSound_of_load {config : Config} (h : load files paths chain room = .ok config) :
    config.IsSound := by
  rw [load_eq] at h
  obtain ⟨executors, hexecutors, h⟩ := bind_eq_ok_iff.1 h
  obtain ⟨router, hrouter, h⟩ := bind_eq_ok_iff.1 h
  obtain ⟨capabilities, hcapabilities, h⟩ := bind_eq_ok_iff.1 h
  cases h
  have hbundled := isSound_bundled chain
  exact ⟨of_fromFile hexecutors hbundled.executors fun _ _ h => isUsable_of_executorsOf h,
    of_fromFile hrouter hbundled.router fun _ _ h => isUsable_of_routerOf h,
    of_fromFile hcapabilities hbundled.capabilities fun _ _ h => Capabilities.isApart_of_ofJson h⟩

/-- **The tables fit** as far as they are looked at: the routers once there are executors, and the
classification once there is a router or none. -/
structure TablesFit (files : Files) (paths : TablePaths) (chain : Chain) (room : Option ℕ) : Prop where
  executors : FileFits files room (FitsExecutors chain) paths.executors
  routers : ∀ executors, executorsFrom files paths chain room = .ok executors →
    FileFits files room (fun table => ∃ fields, table = .obj fields) paths.routers
  capabilities : ∀ executors router, executorsFrom files paths chain room = .ok executors →
    routerFrom files paths chain room = .ok router →
      FileFits files room (fun table => ∃ fields, table = .obj fields ∧ Capabilities.HasShape fields)
        paths.capabilities

theorem failsFatally_load_iff :
    FailsFatally (load files paths chain room) ↔ TablesFit files paths chain room := by
  have hexecutors : FailsFatally (executorsFrom files paths chain room) ↔
      FileFits files room (FitsExecutors chain) paths.executors :=
    failsFatally_fromFile_iff fun _ => failsFatally_executorsOf_iff
  have hrouter : FailsFatally (routerFrom files paths chain room) ↔
      FileFits files room (fun table => ∃ fields, table = .obj fields) paths.routers :=
    failsFatally_fromFile_iff fun _ => failsFatally_routerOf_iff
  have hcapabilities : FailsFatally (capabilitiesFrom files paths chain room) ↔ FileFits files room
      (fun table => ∃ fields, table = .obj fields ∧ Capabilities.HasShape fields) paths.capabilities :=
    failsFatally_fromFile_iff fun _ => Capabilities.failsFatally_ofJson_iff
  rw [load_eq]
  simp only [failsFatally_bind_iff, hexecutors, hrouter, hcapabilities]
  constructor
  · rintro ⟨h, hrest⟩
    exact ⟨h, fun executors he => (hrest executors he).1,
      fun executors router he hr => ((hrest executors he).2 router hr).1⟩
  · intro h
    refine ⟨h.executors, fun executors he => ⟨h.routers executors he, fun router hr => ?_⟩⟩
    exact ⟨h.capabilities executors router he hr, fun capabilities _ => failsFatally_ok _⟩

/-- Loading ends with a sound setup, or with a reason to refuse it. -/
def EndsCleanly (x : Except Failure Config) : Prop :=
  (∃ config, x = .ok config ∧ config.IsSound) ∨
    ∃ e : EncodingError, x = .error (.encoding e) ∧ e.kind = .fatal

/-- **How loading ends.**  A setup that is loaded is sound; and loading ends with a sound setup or with a
reason to refuse it, exactly if the tables fit. -/
theorem endsCleanly_load_iff (files : Files) (paths : TablePaths) (chain : Chain) (room : Option ℕ) :
    (∀ config, load files paths chain room = .ok config → config.IsSound) ∧
      (EndsCleanly (load files paths chain room) ↔ TablesFit files paths chain room) := by
  refine ⟨fun config h => isSound_of_load h, ?_⟩
  rw [← failsFatally_load_iff]
  cases hload : load files paths chain room with
  | ok config => exact iff_of_true (Or.inl ⟨config, rfl, isSound_of_load hload⟩) (failsFatally_ok config)
  | error failure =>
    constructor
    · rintro (⟨config, h, -⟩ | ⟨e, h, hkind⟩)
      · cases h
      · rw [h]
        exact failsFatally_encoding hkind
    · intro h
      obtain ⟨e, rfl, hkind⟩ := h failure rfl
      exact Or.inr ⟨e, rfl, hkind⟩

end Config

namespace Sample

/-- A table in which the executors of a chain are a list. -/
def listedExecutors : Files := { entries := [("tables.json", "\x7b\"ethereum\": []\x7d")] }

/-- Such a table is a defect, and no reason to refuse the setup. -/
theorem not_endsCleanly_listedExecutors :
    ¬ ∀ (files : Files) (paths : TablePaths) (chain : Chain) (room : Option ℕ),
      Config.EndsCleanly (Config.load files paths chain room) := by
  intro h
  have hrun : (match Config.load listedExecutors { executors := some "tables.json" } .ethereum with
      | .error failure => decide (failure = .defect)
      | .ok _ => false) = true := by
    decide +kernel
  rcases h listedExecutors { executors := some "tables.json" } .ethereum none with
    ⟨config, hconfig, -⟩ | ⟨e, he, -⟩
  · rw [hconfig] at hrun
    cases hrun
  · rw [he] at hrun
    cases of_decide_eq_true hrun

end Sample

end SwapRouter
