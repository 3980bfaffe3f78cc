import SwapRouter.Config.Tables
import SwapRouter.Proofs.JsonNames
import SwapRouter.Proofs.Reason.Venue
import SwapRouter.Surroundings

/-!
# Encoders of a setup

The encoders of a chain are made from tables.  A table that is accepted names well-formed addresses
only, and the settings of single protocols always come with the program.  So if the addresses of the
tables have digits alone, then so have those of every encoder, whatever the tables are.

* `Config.IsExact`: what is asked of the tables.
* `Config.settings_of_load`: the settings are those that come with the program.
* `RouterEncoder.exists_ofSurroundings`: with the tables of the program, every chain has an encoder.
* `RouterEncoder.isExact_of_create`: **the encoders of a setup.**
-/

namespace SwapRouter

variable {config : Config} {approvals : Option ApprovalSource} {setup : EncoderRegistry.QuoteSetup}

/-- What holds at the start and is kept by every step holds at the end. -/
theorem foldlM_induction {ε α β : Type} {P : β → Prop} {f : β → α → Except ε β} {l : List α}
    {b b' : β} (h : l.foldlM f b = .ok b') (hb : P b)
    (hf : ∀ a ∈ l, ∀ b b', P b → f b a = .ok b' → P b') : P b' := by
  induction l generalizing b with
  | nil =>
    cases h
    exact hb
  | cons a l ih =>
    obtain ⟨ha, hl⟩ := List.forall_mem_cons.1 hf
    rw [List.foldlM_cons] at h
    obtain ⟨next, hnext, h⟩ := bind_eq_ok_iff.1 h
    exact ih h (ha b next hb hnext) hl

/-- Steps that cannot fail come to an end. -/
theorem exists_foldlM_eq_ok {ε α β : Type} {f : β → α → Except ε β} {l : List α}
    (hf : ∀ a ∈ l, ∀ b, ∃ b', f b a = .ok b') (b : β) : ∃ b', l.foldlM f b = .ok b' := by
  induction l generalizing b with
  | nil => exact ⟨b, rfl⟩
  | cons a l ih =>
    obtain ⟨ha, hl⟩ := List.forall_mem_cons.1 hf
    obtain ⟨next, hnext⟩ := ha b
    rw [List.foldlM_cons, hnext]
    exact ih hl next

/-! ## Tables -/

namespace Config

/-- The addresses of the tables have digits alone, and the sets that classify protocols hold texts
alone, so that every look-up in them comes to an answer. -/
structure IsExact (config : Config) : Prop where
  executors : ∀ entry ∈ config.executors, entry.2.IsExact
  router : ∀ a ∈ config.router, a.IsExact
  groupable : config.capabilities.groupable.foreign = []
  paidDirectly : config.capabilities.paidDirectly.foreign = []
  unsupportedForChaining : config.capabilities.unsupportedForChaining.foreign = []
  fundsInRouter : config.capabilities.fundsInRouter.foreign = []

/-- The executors that come with the program are well formed and have digits alone, and every setting
that the family of one needs is there. -/
theorem executors_bundled (chain : Chain) :
    ∀ entry ∈ (bundled chain).executors,
      entry.2.isWellFormed = true ∧ entry.2.hasHexDigits = true ∧
        ∀ venue ∈ Venue.ofProtocol? entry.1, ∀ key ∈ venue.spenderSetting?,
          (((bundled chain).settingsOf entry.1).lookup key).isSome = true := by
  cases chain <;> decide +kernel

/-- The tables that come with the program are such tables. -/
theorem isExact_bundled (chain : Chain) : (bundled chain).IsExact := by
  have hrouter : ∀ a ∈ (bundled chain).router,
      a.isWellFormed = true ∧ a.hasHexDigits = true := by
    cases chain <;> decide +kernel
  refine ⟨fun entry hentry => ?_, fun a ha => ⟨(hrouter a ha).1, (hrouter a ha).2⟩,
    rfl, rfl, rfl, rfl⟩
  obtain ⟨hformed, hdigits, -⟩ := executors_bundled chain entry hentry
  exact ⟨hformed, hdigits⟩

/-- The tables that come with the program lack nothing: the executors are well formed, and every
setting that a family needs is there. -/
theorem isComplete_bundled (chain : Chain) :
    ∀ entry ∈ (bundled chain).executors, entry.2.isWellFormed = true ∧
      ∀ venue ∈ Venue.ofProtocol? entry.1, ∀ key ∈ venue.spenderSetting?,
        (((bundled chain).settingsOf entry.1).lookup key).isSome = true := fun entry hentry => by
  obtain ⟨hformed, -, hsettings⟩ := executors_bundled chain entry hentry
  exact ⟨hformed, hsettings⟩

/-- A setup goes on with a table of a file or with the one in its place. -/
theorem exists_of_table {α β : Type} {path : Option String} {read : String → Except Failure Json}
    {ofJson : Json → Except Failure α} {usual : α} {rest : α → Except Failure β} {b : β}
    (h : (match path with
      | some path => read path >>= fun j => ofJson j >>= rest
      | none => pure usual >>= rest) = .ok b) : ∃ a, rest a = .ok b := by
  cases path with
  | none => exact ⟨usual, h⟩
  | some path =>
    obtain ⟨j, -, h⟩ := bind_eq_ok_iff.1 h
    obtain ⟨a, -, h⟩ := bind_eq_ok_iff.1 h
    exact ⟨a, h⟩

/-- The settings of a chain come with the program, whatever files replace the tables. -/
theorem settings_of_load {files : Files} {paths : TablePaths} {chain : Chain} {room : Option ℕ}
    (h : load files paths chain room = .ok config) : config.settings = (bundled chain).settings := by
  unfold load at h
  obtain ⟨executors, h⟩ := exists_of_table h
  obtain ⟨router, h⟩ := exists_of_table h
  obtain ⟨capabilities, h⟩ := exists_of_table h
  cases h
  rfl

/-- The addresses among the settings of a chain have digits alone. -/
theorem hasHexDigits_of_bundled (chain : Chain) :
    ∀ entry ∈ Bundled.settings chain, ∀ setting ∈ entry.2,
      (Address.mk setting.2).isWellFormed = true → (Address.mk setting.2).hasHexDigits = true := by
  cases chain <;> decide +kernel

/-- The settings of a protocol are those under some name. -/
theorem exists_of_mem_settingsOf {protocol : String} {setting : String × Json}
    (h : setting ∈ config.settingsOf protocol) : ∃ entry ∈ config.settings, setting ∈ entry.2 := by
  rw [settingsOf] at h
  split at h
  next settings hsettings => exact ⟨_, mem_of_lookup hsettings, h⟩
  next =>
    split at h
    next entry hentry => exact ⟨entry, List.mem_of_find?_eq_some hentry, h⟩
    next => exact absurd h List.not_mem_nil

/-- **The settings of a protocol** hold no address with anything but digits. -/
theorem hasHexDigits_of_load {files : Files} {paths : TablePaths} {chain : Chain} {room : Option ℕ}
    (h : load files paths chain room = .ok config) {protocol key text : String}
    (hsetting : (config.settingsOf protocol).lookup key = some (.str text)) :
    (Address.mk text).isWellFormed = true → (Address.mk text).hasHexDigits = true := by
  obtain ⟨entry, hentry, hmem⟩ := exists_of_mem_settingsOf (mem_of_lookup hsetting)
  rw [settings_of_load h] at hentry
  obtain ⟨⟨name, settings⟩, hbundled, rfl⟩ := List.mem_map.1 hentry
  obtain ⟨⟨key', text'⟩, hmem', heq⟩ := List.mem_map.1 hmem
  cases heq
  exact hasHexDigits_of_bundled chain _ hbundled _ hmem'

end Config

/-! ## Encoders -/

/-- The sources of quotes for the protocols of a setup fail for a reason only. -/
def EncoderRegistry.QuoteSetup.IsReasoned (setup : QuoteSetup) (config : Config) : Prop :=
  ∀ entry ∈ config.executors, ∀ source ∈ quoteSource? setup config entry.1, source.IsReasoned

/-- **The encoders of a setup.** -/
theorem EncoderRegistry.isExact_of_ofConfig {registry : EncoderRegistry} {files : Files}
    {paths : TablePaths} {chain : Chain} {room : Option ℕ}
    (hload : Config.load files paths chain room = .ok config)
    (hconfig : config.IsExact) (happrovals : ∀ source ∈ approvals, source.IsReasoned)
    (hquotes : setup.IsReasoned config) (h : ofConfig config approvals setup = .ok registry) :
    ∀ entry ∈ registry.entries, entry.2.IsExact := by
  rw [ofConfig] at h
  refine @foldlM_induction _ _ _ (fun r => ∀ entry ∈ r.entries, entry.2.IsExact) _ _ _ _ h
    (fun entry hentry => absurd hentry List.not_mem_nil) ?_
  rintro ⟨protocol, executor⟩ hexecutor r r' hr hstep
  dsimp only at hstep
  split at hstep
  next =>
    cases hstep
    exact hr
  next venue _ =>
    obtain ⟨e, he, hstep⟩ := bind_eq_ok_iff.1 hstep
    cases hstep
    intro entry hentry
    rcases Json.mem_put hentry with rfl | hentry
    · rw [SwapEncoder.create] at he
      split at he
      · cases he
      · split at he
        · cases he
        · cases he
          exact ⟨(hconfig.executors _ hexecutor).normal,
            fun key text hsetting => Config.hasHexDigits_of_load hload hsetting, happrovals,
            hquotes _ hexecutor⟩
    · exact hr entry hentry

namespace RouterEncoder

/-- An encoder of orders keeps the tables that it is set up with. -/
theorem config_of_create {r : RouterEncoder} {chain : Chain} {signer : Option Signer}
    {router : Option Address} (h : create chain config approvals signer setup router = .ok r) :
    r.strategies.config = config := by
  unfold create at h
  dsimp only at h
  split at h
  · cases h
  obtain ⟨registry, -, h⟩ := bind_eq_ok_iff.1 h
  cases h
  rfl

/-- The tables that come with the program are enough for an encoder. -/
theorem exists_create_bundled (chain : Chain) (approvals : Option ApprovalSource)
    (signer : Option Signer) (setup : EncoderRegistry.QuoteSetup) (router : Option Address) :
    ∃ r, create chain (Config.bundled chain) approvals signer setup router = .ok r := by
  have hregistry : ∃ registry,
      EncoderRegistry.ofConfig (Config.bundled chain) approvals setup = .ok registry := by
    refine exists_foldlM_eq_ok ?_ _
    rintro ⟨protocol, executor⟩ hentry registry
    obtain ⟨hformed, hsettings⟩ := Config.isComplete_bundled chain _ hentry
    dsimp only
    cases hvenue : Venue.ofProtocol? protocol with
    | none => exact ⟨registry, rfl⟩
    | some venue =>
      have hkey : (venue.spenderSetting?.filter fun key =>
          (((Config.bundled chain).settingsOf protocol).lookup key).isNone) = none := by
        refine Option.filter_eq_none_iff.2 fun key hkey => ?_
        rw [← Option.not_isSome, hsettings venue hvenue key hkey]
        exact Bool.false_ne_true
      dsimp only
      rw [SwapEncoder.create, hformed, Bool.not_true, if_neg Bool.false_ne_true, hkey]
      exact ⟨_, rfl⟩
  obtain ⟨registry, hregistry⟩ := hregistry
  have hchain : ¬ (Config.bundled chain).chain ≠ chain := fun hne => hne rfl
  refine ⟨⟨⟨Config.bundled chain, registry, signer⟩, approvals, router⟩, ?_⟩
  unfold create
  dsimp only
  rw [if_neg hchain, hregistry]
  rfl

/-- **An encoder is set up for every chain** where the settings are read, with the tables that come with
the program. -/
theorem exists_ofSurroundings {around : Surroundings} {settings : Settings}
    (h : Settings.ofEnvironment around.environment = .ok settings) (chain : Chain) :
    ∃ r, ofSurroundings around chain = .ok r := by
  obtain ⟨r, hr⟩ := exists_create_bundled chain
    ((settings.rpcUrl.map fun url => ChainReader.ofNode (around.node url)).map ApprovalSource.onChain)
    none ⟨[], around.environment, settings.requestTimeout, around.reply⟩ none
  have hload : Config.load around.files {} chain around.rooms.table = .ok (Config.bundled chain) := rfl
  refine ⟨r, bind_eq_ok_iff.2 ⟨settings, h, bind_eq_ok_iff.2 ⟨_, hload, ?_⟩⟩⟩
  refine bind_eq_ok_iff.2 ⟨none, rfl, ?_⟩
  dsimp only
  rw [hr]
  rfl

/-- The addresses of an encoder of orders have digits alone, those whom it asks fail for a reason
only, and it signs nothing. -/
structure IsExact (r : RouterEncoder) : Prop where
  encoders : ∀ protocol e, r.strategies.encoders.get protocol = .ok e → e.IsExact
  approvals : ∀ source ∈ r.approvals, source.IsReasoned
  router : ∀ a ∈ given? r.router, a.IsExact
  tableRouter : ∀ a ∈ r.strategies.config.router, a.IsExact
  signer : r.strategies.signer = none

/-- **An encoder that is set up without a signer** is one of them, if the addresses of its setup have
digits alone. -/
theorem isExact_of_create {r : RouterEncoder} {files : Files} {paths : TablePaths}
    {chain chain' : Chain} {room : Option ℕ} {router : Option Address}
    (hload : Config.load files paths chain room = .ok config) (hconfig : config.IsExact)
    (happrovals : ∀ source ∈ approvals, source.IsReasoned) (hquotes : setup.IsReasoned config)
    (hrouter : ∀ a ∈ given? router, a.IsExact)
    (h : create chain' config approvals none setup router = .ok r) : r.IsExact := by
  unfold create at h
  dsimp only at h
  split at h
  · cases h
  obtain ⟨registry, hregistry, h⟩ := bind_eq_ok_iff.1 h
  cases h
  refine ⟨fun protocol e he => ?_, happrovals, hrouter, hconfig.router, rfl⟩
  rw [EncoderRegistry.get] at he
  split at he
  next e' hlookup =>
    cases he
    exact EncoderRegistry.isExact_of_ofConfig hload hconfig happrovals hquotes hregistry _
      (mem_of_lookup hlookup)
  next => cases he

end RouterEncoder

end SwapRouter
