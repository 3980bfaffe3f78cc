import Mathlib.Order.Fin.Basic
import Mathlib.Data.Finset.Max
import SwapRouter.Pattern

/-!
# Names that fit two patterns

Whether two patterns name one protocol is a question about infinitely many names.  It is decided
here from the patterns alone.

For two pieces the question is whether some code point fits both.  What a piece accepts is made up
of intervals, and the first code points of these are its *corners*.  If a code point fits both
pieces, so does the greatest of their corners that does not lie behind it: on the way back to this
corner neither piece has left the interval that the code point lies in.  So it is enough to try the
corners.

For two lists of pieces the first two pieces are compared.  A `*` either ends where it stands, or it
takes one more code point, which the first piece of the other list then has to take as well.

* `Piece.agrees_iff`: whether two pieces let the same code point stand.
* `meets_iff`: whether one text fits two lists of pieces.
* `exists_namesProtocol_iff`: **whether two patterns name one protocol.**
-/

namespace SwapRouter

open Text (CodePoint)

namespace Pattern

variable {p q : Piece} {ps qs : List Piece} {c d : CodePoint} {cs : List CodePoint}

/-! ## One code point -/

/-- The code point behind another one. -/
def succ? (c : CodePoint) : Option CodePoint :=
  if h : c.val + 1 < 0x110000 then some ⟨c.val + 1, h⟩ else none

/-- A code point that has others behind it is followed by one, and none lies between. -/
theorem exists_succ?_eq_some (h : c < d) : ∃ next, succ? c = some next ∧ c < next ∧ next ≤ d := by
  have hbound : c.val + 1 < 0x110000 := Nat.lt_of_le_of_lt h d.isLt
  exact ⟨⟨c.val + 1, hbound⟩, dif_pos hbound, Nat.lt_succ_self _, h⟩

/-- Whether a piece lets a code point stand where it stands; `*` lets every one. -/
def Piece.lets (p : Piece) (c : CodePoint) : Bool := p = .anyText || p.accepts c

/-- The code points at which an interval of accepted ones may start. -/
def Piece.corners : Piece → List CodePoint
  | .anyText | .anyChar => []
  | .literal c => [c]
  | .oneOf ranges => ranges.map (·.1)
  | .noneOf ranges => ranges.filterMap fun r => succ? r.2

/-- Whether two pieces let the same code point stand. -/
def Piece.agrees (p q : Piece) : Bool :=
  (0 :: (p.corners ++ q.corners)).any fun c => p.lets c && q.lets c

/-- A piece that lets a code point stand also lets one in front of it, if none of its corners lies
between the two. -/
theorem Piece.lets_of_corners (hd : p.lets d = true) (hc : c ≤ d)
    (hbetween : ∀ e ∈ p.corners, e ≤ d → e ≤ c) : p.lets c = true := by
  cases p with
  | anyText => rfl
  | anyChar => rfl
  | literal e =>
    have he : e = d := by simpa [lets, accepts] using hd
    have : c = d := le_antisymm hc (he ▸ hbetween e (List.mem_singleton_self e) he.le)
    rw [this, hd]
  | oneOf ranges =>
    obtain ⟨⟨first, last⟩, hmem, hfirst, hlast⟩ : ∃ r ∈ ranges, r.1 ≤ d ∧ d ≤ r.2 := by
      simpa [lets, accepts] using hd
    have hin : first ≤ c ∧ c ≤ last :=
      ⟨hbetween first (List.mem_map_of_mem hmem) hfirst, hc.trans hlast⟩
    simp only [lets, accepts, Bool.or_eq_true, List.any_eq_true]
    exact .inr ⟨(first, last), hmem, by simpa using hin⟩
  | noneOf ranges =>
    have hout : ∀ r ∈ ranges, r.1 ≤ d → r.2 < d := by
      simpa [lets, accepts] using hd
    have : ∀ r ∈ ranges, r.1 ≤ c → r.2 < c := fun r hr hfirst => by
      -- behind this range starts an interval of accepted characters, and `d` lies in it
      obtain ⟨next, hnext, hlt, hle⟩ := exists_succ?_eq_some (hout r hr (hfirst.trans hc))
      exact hlt.trans_le (hbetween next (List.mem_filterMap.2 ⟨r, hr, hnext⟩) hle)
    simpa [lets, accepts] using this

/-- **Two pieces agree exactly if they let the same code point stand.** -/
theorem Piece.agrees_iff : p.agrees q = true ↔ ∃ c, p.lets c = true ∧ q.lets c = true := by
  constructor
  · intro h
    obtain ⟨c, -, hc⟩ := List.any_eq_true.1 h
    exact ⟨c, Bool.and_eq_true_iff.1 hc⟩
  · rintro ⟨d, hp, hq⟩
    let corners := 0 :: (p.corners ++ q.corners)
    have hzero : 0 ∈ (corners.filter (· ≤ d)).toFinset := by simp [corners]
    obtain ⟨c, hc, hgreatest⟩ := Finset.exists_max_image _ id ⟨_, hzero⟩
    obtain ⟨hmem, hle⟩ : c ∈ corners ∧ c ≤ d := by simpa using hc
    have hbetween : ∀ e ∈ p.corners ++ q.corners, e ≤ d → e ≤ c := fun e he hed =>
      hgreatest e (by simpa [corners, hed] using List.mem_cons_of_mem 0 he)
    refine List.any_eq_true.2 ⟨c, hmem, Bool.and_eq_true_iff.2 ⟨?_, ?_⟩⟩
    · exact lets_of_corners hp hle fun e he => hbetween e (List.mem_append_left _ he)
    · exact lets_of_corners hq hle fun e he => hbetween e (List.mem_append_right _ he)

/-! ## One text -/

/-- Puts a piece in front of a list of pieces, of which `rest` says which lists it meets. -/
def meetsWith (p : Piece) (rest : List Piece → Bool) : List Piece → Bool
  | [] => p = .anyText && rest []
  | q :: qs =>
    if p = .anyText then rest (q :: qs) || (p.agrees q && meetsWith p rest qs)
    else if q = .anyText then meetsWith p rest qs || (q.agrees p && rest (q :: qs))
    else p.agrees q && rest qs

/-- Whether one text fits two lists of pieces. -/
def meets (ps : List Piece) : List Piece → Bool :=
  ps.foldr meetsWith fun qs => qs.all (· = .anyText)

/-- One text fits two lists of pieces. -/
def Meet (ps qs : List Piece) : Prop := ∃ cs, fits ps cs = true ∧ fits qs cs = true

theorem Meet.symm (h : Meet ps qs) : Meet qs ps :=
  let ⟨cs, hps, hqs⟩ := h
  ⟨cs, hqs, hps⟩

theorem meet_comm (ps qs : List Piece) : Meet ps qs ↔ Meet qs ps := ⟨Meet.symm, Meet.symm⟩

/-- The empty text fits nothing but `*`. -/
theorem fits_nil_iff : fits ps [] = true ↔ ∀ p ∈ ps, p = .anyText := by
  induction ps with
  | nil => simp [fits]
  | cons p ps ih => cases p <;> simp [fits, ih]

theorem fits_anyText_cons :
    fits (.anyText :: ps) (c :: cs) = true ↔
      fits ps (c :: cs) = true ∨ fits (.anyText :: ps) cs = true := by
  simp [fits]

/-- A `*` may take nothing at all. -/
theorem fits_anyText_of_fits (h : fits ps cs = true) : fits (.anyText :: ps) cs = true := by
  cases cs with
  | nil => simpa [fits] using h
  | cons c cs => exact fits_anyText_cons.2 (.inl h)

/-- Another piece takes exactly one code point. -/
theorem fits_cons_iff (hp : p ≠ .anyText) :
    fits (p :: ps) cs = true ↔ ∃ c rest, cs = c :: rest ∧ p.lets c = true ∧ fits ps rest = true := by
  cases cs with
  | nil => cases p <;> simp_all [fits]
  | cons c cs => cases p <;> simp_all [fits, Piece.lets]

theorem meet_nil_left : Meet [] qs ↔ ∀ q ∈ qs, q = .anyText := by
  rw [← fits_nil_iff]
  refine ⟨?_, fun h => ⟨[], by simp [fits], h⟩⟩
  rintro ⟨cs, hempty, hqs⟩
  have : cs = [] := by simpa [fits] using hempty
  rwa [this] at hqs

/-- A `*` in front ends where it stands, or takes one more code point. -/
theorem meet_anyText_cons_iff :
    Meet (.anyText :: ps) (q :: qs) ↔
      Meet ps (q :: qs) ∨ ((∃ c, q.lets c = true) ∧ Meet (.anyText :: ps) qs) := by
  constructor
  · rintro ⟨cs, hps, hqs⟩
    -- two `*` may take the same code points, and then one of them takes less
    induction cs with
    | nil => exact .inl ⟨[], by simpa [fits] using hps, hqs⟩
    | cons c cs ih =>
      rcases fits_anyText_cons.1 hps with hends | hgoes
      · exact .inl ⟨c :: cs, hends, hqs⟩
      · by_cases hq : q = .anyText
        · subst hq
          rcases fits_anyText_cons.1 hqs with hqends | hqgoes
          · exact .inr ⟨⟨c, rfl⟩, c :: cs, hps, hqends⟩
          · exact ih hgoes hqgoes
        · obtain ⟨c', rest, hcs, hlets, hrest⟩ := (fits_cons_iff hq).1 hqs
          obtain ⟨rfl, rfl⟩ := List.cons.inj hcs
          exact .inr ⟨⟨c, hlets⟩, cs, hgoes, hrest⟩
  · rintro (⟨cs, hps, hqs⟩ | ⟨⟨c, hlets⟩, cs, hps, hqs⟩)
    · exact ⟨cs, fits_anyText_of_fits hps, hqs⟩
    · by_cases hq : q = .anyText
      · exact ⟨cs, hps, hq ▸ fits_anyText_of_fits hqs⟩
      · exact ⟨c :: cs, fits_anyText_cons.2 (.inr hps),
          (fits_cons_iff hq).2 ⟨c, cs, rfl, hlets, hqs⟩⟩

/-- Two other pieces in front take one code point, the same. -/
theorem meet_cons_iff (hp : p ≠ .anyText) (hq : q ≠ .anyText) :
    Meet (p :: ps) (q :: qs) ↔ (∃ c, p.lets c = true ∧ q.lets c = true) ∧ Meet ps qs := by
  constructor
  · rintro ⟨cs, hps, hqs⟩
    obtain ⟨c, rest, rfl, hpc, hps⟩ := (fits_cons_iff hp).1 hps
    obtain ⟨c', rest', hcs, hqc, hqs⟩ := (fits_cons_iff hq).1 hqs
    obtain ⟨rfl, rfl⟩ := List.cons.inj hcs
    exact ⟨⟨c, hpc, hqc⟩, rest, hps, hqs⟩
  · rintro ⟨⟨c, hpc, hqc⟩, cs, hps, hqs⟩
    exact ⟨c :: cs, (fits_cons_iff hp).2 ⟨c, cs, rfl, hpc, hps⟩,
      (fits_cons_iff hq).2 ⟨c, cs, rfl, hqc, hqs⟩⟩

theorem anyText_agrees_iff : Piece.agrees .anyText q = true ↔ ∃ c, q.lets c = true :=
  Piece.agrees_iff.trans (exists_congr fun _ => and_iff_right rfl)

/-- One step of `meets`. -/
theorem meetsWith_iff {rest : List Piece → Bool} (hrest : ∀ qs, rest qs = true ↔ Meet ps qs) :
    meetsWith p rest qs = true ↔ Meet (p :: ps) qs := by
  induction qs with
  | nil =>
    rw [meetsWith, Bool.and_eq_true, decide_eq_true_eq, hrest, meet_comm, meet_nil_left,
      meet_comm, meet_nil_left, List.forall_mem_cons]
  | cons q qs ih =>
    unfold meetsWith
    split_ifs with hp hq
    · subst hp
      rw [Bool.or_eq_true, Bool.and_eq_true, hrest, ih, anyText_agrees_iff, meet_anyText_cons_iff]
    · subst hq
      rw [Bool.or_eq_true, Bool.and_eq_true, hrest, ih, anyText_agrees_iff, meet_comm _ qs,
        meet_comm ps, meet_comm (p :: ps), meet_anyText_cons_iff]
    · rw [Bool.and_eq_true, hrest, Piece.agrees_iff, meet_cons_iff hp hq]

/-- **`meets` decides whether one text fits two lists of pieces.** -/
theorem meets_iff : meets ps qs = true ↔ Meet ps qs := by
  induction ps generalizing qs with
  | nil => simp [meets, meet_nil_left]
  | cons p ps ih => exact meetsWith_iff fun qs => ih

end Pattern

/-! ## One protocol -/

/-- Whether two patterns name one protocol. -/
def patternsMeet (a b : String) : Bool :=
  namesProtocol a b || namesProtocol b a ||
    ((Text.codes a).contains Pattern.star && (Text.codes b).contains Pattern.star &&
      Pattern.meets (Pattern.pieces (Text.codes a).length (Text.codes a))
        (Pattern.pieces (Text.codes b).length (Text.codes b)))

theorem namesProtocol_iff {pattern protocol : String} :
    namesProtocol pattern protocol = true ↔
      pattern = protocol ∨
        (Text.codes pattern).contains Pattern.star = true ∧ fitsPattern pattern protocol = true := by
  simp [namesProtocol]

/-- **Some protocol is named by both of two patterns exactly if `patternsMeet` says so.** -/
theorem exists_namesProtocol_iff {a b : String} :
    (∃ protocol, namesProtocol a protocol = true ∧ namesProtocol b protocol = true) ↔
      patternsMeet a b = true := by
  have hmeet : Pattern.meets (Pattern.pieces (Text.codes a).length (Text.codes a))
      (Pattern.pieces (Text.codes b).length (Text.codes b)) = true ↔
        ∃ protocol, fitsPattern a protocol = true ∧ fitsPattern b protocol = true := by
    simp only [Pattern.meets_iff, Pattern.Meet, fitsPattern_eq]
    exact ⟨fun ⟨cs, h⟩ => ⟨Text.ofCodes cs, by rwa [Text.codes_ofCodes]⟩,
      fun ⟨s, h⟩ => ⟨Text.codes s, h⟩⟩
  rw [patternsMeet, Bool.or_eq_true, Bool.or_eq_true, Bool.and_eq_true, Bool.and_eq_true, hmeet]
  constructor
  · rintro ⟨protocol, ha, hb⟩
    rcases namesProtocol_iff.1 ha with rfl | ⟨hastar, hafits⟩
    · exact .inl (.inr hb)
    · rcases namesProtocol_iff.1 hb with rfl | ⟨hbstar, hbfits⟩
      · exact .inl (.inl ha)
      · exact .inr ⟨⟨hastar, hbstar⟩, protocol, hafits, hbfits⟩
  · rintro ((ha | hb) | ⟨⟨hastar, hbstar⟩, protocol, hafits, hbfits⟩)
    · exact ⟨b, ha, namesProtocol_iff.2 (.inl rfl)⟩
    · exact ⟨a, namesProtocol_iff.2 (.inl rfl), hb⟩
    · exact ⟨protocol, namesProtocol_iff.2 (.inr ⟨hastar, hafits⟩),
        namesProtocol_iff.2 (.inr ⟨hbstar, hbfits⟩)⟩

end SwapRouter
