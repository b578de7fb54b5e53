import Termpane.ByteParser
import Termpane.Serialize
import Mathlib.Tactic.IntervalCases

/-!
# SGR runs that turn one pen into another

The parameters of `write_attrs_diff`, group by group: what they say in the destination's
`apply_sgr`, and that there are never more of them than the parser keeps.
-/
namespace Termpane

open Lib

/-! ## Running parameters -/

/-- `apply_sgr` on parameters of which there may be none. -/
def runSgr (params : List Param) (a : Attrs) : Attrs := applySgrFrom params.length params a

theorem applySgrFrom_cons (n : Nat) (param : Param) (rest : List Param) (a : Attrs) :
    applySgrFrom (n + 1) (param :: rest) a = applySgrFrom n (rest.drop (sgrParam param rest a).2) (sgrParam param rest a).1 :=
  rfl

/-- The number of turns the loop is granted does not matter once it covers the parameters. -/
theorem applySgrFrom_eq {n : Nat} {params : List Param} (enough : params.length ≤ n) (a : Attrs) :
    applySgrFrom n params a = runSgr params a := by
  induction n using Nat.strongRecOn generalizing params a with
  | ind n ih =>
    cases params with
    | nil => cases n <;> rfl
    | cons param rest =>
      obtain ⟨n,rfl⟩ : ∃ k, n = k + 1 := ⟨n - 1,by simp at enough; omega⟩
      have kept : (rest.drop (sgrParam param rest a).2).length ≤ rest.length := by simp
      have room : rest.length ≤ n := by simpa using enough
      rw [runSgr,List.length_cons,applySgrFrom_cons,applySgrFrom_cons,ih n (Nat.lt_succ_self n) (kept.trans room)]
      rcases Nat.lt_or_eq_of_le room with more | same
      · exact (ih rest.length (by omega) kept _).symm
      · rw [same]; exact (ih n (Nat.lt_succ_self n) (kept.trans room) _).symm

theorem runSgr_cons (param : Param) (rest : List Param) (a : Attrs) :
    runSgr (param :: rest) a = runSgr (rest.drop (sgrParam param rest a).2) (sgrParam param rest a).1 := by
  rw [runSgr,List.length_cons,applySgrFrom_cons]
  exact applySgrFrom_eq (by simp) _

/-- Whatever comes after them, the parameters turn one pen into another. -/
def Runs (params : List Param) (a b : Attrs) : Prop := ∀ rest, runSgr (params ++ rest) a = runSgr rest b

theorem Runs.nil (a : Attrs) : Runs [] a a := fun _ => rfl

theorem Runs.append {left right : List Param} {a b c : Attrs} (first : Runs left a b) (second : Runs right b c) :
    Runs (left ++ right) a c := fun rest => by rw [List.append_assoc,first,second]

theorem Runs.one {param : Param} {a b : Attrs} (turn : ∀ rest, sgrParam param rest a = (b,0)) : Runs [param] a b :=
  fun rest => by rw [List.singleton_append,runSgr_cons,turn]; rfl

/-- A code followed by the parameters it takes. -/
theorem Runs.taking {param : Param} {taken : List Param} {a b : Attrs}
    (turn : ∀ rest, sgrParam param (taken ++ rest) a = (b,taken.length)) : Runs (param :: taken) a b :=
  fun rest => by rw [List.cons_append,runSgr_cons,turn,List.drop_left]

/-! ## Buffers -/

theorem writeParams_concat {params : List Param} (some : params ≠ []) (sub : Param) :
    Token.writeParams (params ++ [sub]) = Token.writeParams params ++ 0x3b :: List.intercalate [0x3a] (sub.map writeU16) := by
  unfold Token.writeParams
  induction params with
  | nil => exact absurd rfl some
  | cons param params ih =>
    cases params with
    | nil => simp [List.intercalate_cons_cons]
    | cons next params =>
      have tail := ih (List.cons_ne_nil _ _)
      simp only [List.cons_append,List.map_cons,List.map_append,List.map_nil] at tail ⊢
      rw [List.intercalate_cons_cons,tail,List.intercalate_cons_cons]
      simp

/-- The buffer holds these parameters. -/
structure SgrBuf.Holds (b : SgrBuf) (params : List Param) : Prop where
  bytes : b.params = Token.writeParams params
  first : b.first = true ↔ params = []

/-- The buffer holds at most `size` values that turn `prev` into `a`. -/
def SgrBuf.Drafts (b : SgrBuf) (size : Nat) (prev a : Attrs) : Prop :=
  ∃ params, b.Holds params ∧ (∀ p ∈ params, p ≠ [] ∧ ∀ n ∈ p, n ≤ u16Max) ∧ (params.map List.length).sum ≤ size ∧
    Runs params prev a

namespace SgrBuf

theorem Holds.raw {b : SgrBuf} {params : List Param} (holds : b.Holds params) {sub : Param} {bytes : Bytes}
    (spelled : bytes = List.intercalate [0x3a] (sub.map writeU16)) : (b.raw bytes).Holds (params ++ [sub]) := by
  refine ⟨?_,iff_of_false Bool.false_ne_true (by simp)⟩
  by_cases none : params = []
  · subst none
    simp [SgrBuf.raw,holds.first.mpr rfl,holds.bytes,spelled,Token.writeParams]
  · have more : b.first = false := by simpa using mt holds.first.mp none
    rw [writeParams_concat none]
    simp [SgrBuf.raw,more,holds.bytes,spelled]

variable {b : SgrBuf} {size : Nat} {prev a a' : Attrs}

theorem Drafts.nil (prev : Attrs) : ({} : SgrBuf).Drafts 0 prev prev :=
  ⟨[],⟨rfl,by simp⟩,by simp,by simp,Runs.nil prev⟩

theorem Drafts.widen {more : Nat} (drafts : b.Drafts size prev a) (le : size ≤ more) : b.Drafts more prev a := by
  obtain ⟨params,holds,legal,count,runs⟩ := drafts
  exact ⟨params,holds,legal,count.trans le,runs⟩

theorem Drafts.raw (drafts : b.Drafts size prev a) (sub : Param) (some : sub ≠ []) (legal : ∀ n ∈ sub, n ≤ u16Max)
    {bytes : Bytes} (spelled : bytes = List.intercalate [0x3a] (sub.map writeU16))
    (turn : ∀ rest, sgrParam sub rest a = (a',0)) : (b.raw bytes).Drafts (size + sub.length) prev a' := by
  obtain ⟨params,holds,each,count,runs⟩ := drafts
  refine ⟨params ++ [sub],holds.raw spelled,?_,by simp; omega,runs.append (.one turn)⟩
  rintro p inside
  rcases List.mem_append.mp inside with old | new
  · exact each p old
  · rw [List.mem_singleton.mp new]; exact ⟨some,legal⟩

theorem Drafts.param (drafts : b.Drafts size prev a) {n : Nat} (legal : n ≤ u16Max)
    (turn : ∀ rest, sgrParam [n] rest a = (a',0)) : (b.param n).Drafts (size + 1) prev a' :=
  drafts.raw [n] (by simp) (by simpa using legal) (by simp) turn

/-- A code with the values it takes, each a parameter of its own. -/
theorem Drafts.taking (drafts : b.Drafts size prev a) {code : Nat} (values : List Nat) (legal : ∀ n ∈ code :: values, n ≤ u16Max)
    (turn : ∀ rest, sgrParam [code] (values.map ([·]) ++ rest) a = (a',values.length)) :
    (values.foldl SgrBuf.param (b.param code)).Drafts (size + 1 + values.length) prev a' := by
  obtain ⟨params,holds,each,count,runs⟩ := drafts
  have held : ∀ (values : List Nat) (b : SgrBuf) (params : List Param), b.Holds params →
      (values.foldl SgrBuf.param b).Holds (params ++ values.map ([·])) := by
    intro values
    induction values with
    | nil => exact fun b params holds => by simpa using holds
    | cons n values ih =>
      intro b params holds
      have grown := ih (b.param n) (params ++ [[n]]) (holds.raw (by simp))
      simpa using grown
  refine ⟨params ++ (code :: values).map ([·]),held (code :: values) b params holds,?_,?_,?_⟩
  · rintro p inside
    rcases List.mem_append.mp inside with old | new
    · exact each p old
    · obtain ⟨n,member,rfl⟩ := List.mem_map.mp new
      exact ⟨by simp,by simpa using legal n member⟩
  · have ones (values : List Nat) : ((values.map ([·])).map List.length).sum = values.length := by
      induction values with
      | nil => rfl
      | cons n values ih => simp only [List.map_cons,List.sum_cons,List.length_cons,ih,List.length_nil]; omega
    rw [List.map_append,List.sum_append,ones,List.length_cons]
    omega
  · exact runs.append (.taking fun rest => by rw [turn rest,List.length_map])

theorem clampU8_toNat (i : UInt8) : clampU8 i.toNat = i := by
  have small := i.toNat_lt
  rw [clampU8,Nat.min_eq_left (by omega),UInt8.ofNat_toNat]

/-- A colour, where `assign` is what its codes do to the pen. -/
theorem Drafts.color (drafts : b.Drafts size prev a) (code reset : Nat) (assign : Color → Attrs) {old : Color}
    (codeLegal : code ≤ u16Max) (resetLegal : reset ≤ u16Max)
    (opens : ∀ rest, sgrParam [code] rest a =
      (assign ((parseSgrColor [code] rest).1.getD old),(parseSgrColor [code] rest).2))
    (resets : ∀ rest, sgrParam [reset] rest a = (assign .default,0)) (c : Color) :
    (b.color code reset c).Drafts (size + 5) prev (assign c) := by
  have small (i : UInt8) : i.toNat ≤ u16Max := by have := i.toNat_lt; unfold u16Max; omega
  cases c with
  | default => exact (drafts.param resetLegal resets).widen (by omega)
  | idx i =>
    refine (drafts.taking [5,i.toNat] ?_ fun rest => ?_).widen (by simp)
    · simp only [List.forall_mem_cons,List.not_mem_nil,false_implies,implies_true,and_true]
      exact ⟨codeLegal,by decide,small i⟩
    · simp [opens,parseSgrColor,Param.first,clampU8_toNat]
  | rgb red green blue =>
    refine (drafts.taking [2,red.toNat,green.toNat,blue.toNat] ?_ fun rest => ?_).widen (by simp)
    · simp only [List.forall_mem_cons,List.not_mem_nil,false_implies,implies_true,and_true]
      exact ⟨codeLegal,by decide,small red,small green,small blue⟩
    · simp [opens,parseSgrColor,Param.first,clampU8_toNat]

theorem Drafts.paletteColor (drafts : b.Drafts size prev a) (normal bright code reset : Nat) (assign : Color → Attrs)
    {old : Color} (codeLegal : code ≤ u16Max) (resetLegal : reset ≤ u16Max) (normalLegal : normal + 7 ≤ u16Max)
    (brightLegal : bright + 15 ≤ u16Max)
    (opens : ∀ rest, sgrParam [code] rest a =
      (assign ((parseSgrColor [code] rest).1.getD old),(parseSgrColor [code] rest).2))
    (resets : ∀ rest, sgrParam [reset] rest a = (assign .default,0))
    (normals : ∀ i < 8, ∀ rest, sgrParam [i + normal] rest a = (assign (.idx (UInt8.ofNat i)),0))
    (brights : ∀ i, 8 ≤ i → i < 16 → ∀ rest, sgrParam [i + bright] rest a = (assign (.idx (UInt8.ofNat i)),0)) (c : Color) :
    (b.paletteColor normal bright code reset c).Drafts (size + 5) prev (assign c) := by
  cases c with
  | default => exact drafts.color code reset assign codeLegal resetLegal opens resets .default
  | rgb red green blue => exact drafts.color code reset assign codeLegal resetLegal opens resets (.rgb red green blue)
  | idx i =>
    rw [SgrBuf.paletteColor]
    have below (n : Nat) (fits : n < 256) : i < UInt8.ofNat n ↔ i.toNat < n := by
      rw [UInt8.lt_iff_toNat_lt,UInt8.toNat_ofNat_of_lt' fits]
    have same : assign (.idx (UInt8.ofNat i.toNat)) = assign (.idx i) := by rw [UInt8.ofNat_toNat]
    split_ifs with low high
    · rw [← same]
      have inside : i.toNat < 8 := (below 8 (by decide)).mp low
      exact (drafts.param (by omega) (normals i.toNat inside)).widen (by omega)
    · rw [← same]
      have inside : i.toNat < 16 := (below 16 (by decide)).mp high
      have outside : ¬ i.toNat < 8 := mt (below 8 (by decide)).mpr low
      exact (drafts.param (by omega) (brights i.toNat (by omega) inside)).widen (by omega)
    · exact drafts.color code reset assign codeLegal resetLegal opens resets (.idx i)

/-- A group that is left out where nothing changes. -/
theorem Drafts.unless (drafts : b.Drafts size prev a) (changed : Prop) [Decidable changed] {b' : SgrBuf} {more : Nat}
    (le : size ≤ more) (same : ¬ changed → a = a') (grown : changed → b'.Drafts more prev a') :
    (if changed then b' else b).Drafts more prev a' := by
  split_ifs with differs
  · exact grown differs
  · exact same differs ▸ drafts.widen le

/-- A bit with a code for either value, left out where it does not change. -/
theorem Drafts.bit (drafts : b.Drafts size prev a) (assign : Bool → Attrs) {x y : Bool} {on off : Nat}
    (onLegal : on ≤ u16Max) (offLegal : off ≤ u16Max) (kept : assign y = a)
    (sets : ∀ rest, sgrParam [on] rest a = (assign true,0)) (clears : ∀ rest, sgrParam [off] rest a = (assign false,0)) :
    (if x ≠ y then b.param (if x then on else off) else b).Drafts (size + 1) prev (assign x) := by
  refine drafts.unless _ (by omega) (fun same => by rw [not_not.mp same,kept]) fun _ => ?_
  cases x with
  | true => exact drafts.param onLegal sets
  | false => exact drafts.param offLegal clears

/-! ## The groups -/

theorem Drafts.foreground (drafts : b.Drafts size prev a) (kept : a.foreground = prev.foreground) (target : Attrs) :
    (if target.foreground ≠ prev.foreground then b.paletteColor 30 82 38 39 target.foreground else b).Drafts (size + 5) prev
      { a with foreground := target.foreground } := by
  refine drafts.unless _ (by omega) (fun same => by rw [not_not.mp same,← kept]) fun _ => ?_
  refine drafts.paletteColor 30 82 38 39 (fun c => { a with foreground := c }) (by decide) (by decide) (by decide) (by decide)
    (fun rest => rfl) (fun rest => rfl) (fun i low rest => ?_) (fun i high low rest => ?_) target.foreground
  · interval_cases i <;> rfl
  · interval_cases i <;> rfl

theorem Drafts.background (drafts : b.Drafts size prev a) (kept : a.background = prev.background) (target : Attrs) :
    (if target.background ≠ prev.background then b.paletteColor 40 92 48 49 target.background else b).Drafts (size + 5) prev
      { a with background := target.background } := by
  refine drafts.unless _ (by omega) (fun same => by rw [not_not.mp same,← kept]) fun _ => ?_
  refine drafts.paletteColor 40 92 48 49 (fun c => { a with background := c }) (by decide) (by decide) (by decide) (by decide)
    (fun rest => rfl) (fun rest => rfl) (fun i low rest => ?_) (fun i high low rest => ?_) target.background
  · interval_cases i <;> rfl
  · interval_cases i <;> rfl

/-- Bold and dim: one is cleared by clearing both. -/
theorem Drafts.intensity (drafts : b.Drafts size prev a) (bold dim : Bool) :
    (b.intensity bold dim).Drafts (size + 2) prev { a with bold := bold, dim := dim } := by
  have cleared : (b.param 22).Drafts (size + 1) prev { a with bold := false, dim := false } :=
    drafts.param (by decide) fun rest => rfl
  have bolder : (b.param 1).Drafts (size + 1) prev { a with bold := true } := drafts.param (by decide) fun rest => rfl
  cases bold <;> cases dim
  · exact cleared.widen (by omega)
  · exact cleared.param (by decide) fun rest => rfl
  · exact cleared.param (by decide) fun rest => rfl
  · exact bolder.param (by decide) fun rest => rfl

theorem Drafts.underline (drafts : b.Drafts size prev a) (style : UnderlineStyle) :
    (b.underline style).Drafts (size + 2) prev { a with underlineStyle := style } := by
  have styled (code : Nat) (legal : code ≤ u16Max) {bytes : Bytes} (spelled : bytes = writeU16 4 ++ 0x3a :: writeU16 code) :
      (b.raw bytes).Drafts (size + 2) prev { a with underlineStyle := underlineStyleFromSgr code } :=
    drafts.raw [4,code] (by simp) (by simpa using ⟨by decide,legal⟩) (by simp [spelled,List.intercalate]) fun rest => rfl
  cases style with
  | none => exact (drafts.param (by decide) fun rest => rfl).widen (by omega)
  | single => exact (drafts.param (by decide) fun rest => rfl).widen (by omega)
  | double => exact styled 2 (by decide) rfl
  | curly => exact styled 3 (by decide) rfl
  | dotted => exact styled 4 (by decide) rfl
  | dashed => exact styled 5 (by decide) rfl

/-- The blinks are cleared together, where one is on, and set one by one. -/
theorem Drafts.blink (drafts : b.Drafts size prev a) (target : Attrs) (slow : a.slowBlink = prev.slowBlink)
    (rapid : a.rapidBlink = prev.rapidBlink) :
    (b.blink target prev).Drafts (size + 3) prev { a with slowBlink := target.slowBlink, rapidBlink := target.rapidBlink } := by
  have cleared : (if prev.slowBlink ∨ prev.rapidBlink then b.param 25 else b).Drafts (size + 1) prev
      { a with slowBlink := false, rapidBlink := false } := by
    refine drafts.unless _ (by omega) (fun off => ?_) fun _ => drafts.param (by decide) fun rest => rfl
    rw [not_or,Bool.not_eq_true,Bool.not_eq_true,← slow,← rapid] at off
    cases a
    simp only at off
    rw [off.1,off.2]
  unfold SgrBuf.blink
  cases slowOn : target.slowBlink <;> cases rapidOn : target.rapidBlink
  · exact cleared.widen (by omega)
  · exact (cleared.param (by decide) fun rest => rfl).widen (by omega)
  · exact (cleared.param (by decide) fun rest => rfl).widen (by omega)
  · have slower : ((if prev.slowBlink ∨ prev.rapidBlink then b.param 25 else b).param 5).Drafts (size + 2) prev
        { a with slowBlink := true, rapidBlink := false } := cleared.param (by decide) fun rest => rfl
    exact slower.param (by decide) fun rest => rfl

theorem Drafts.italic (drafts : b.Drafts size prev a) (kept : a.italic = prev.italic) (target : Attrs) :
    (if target.italic ≠ prev.italic then b.param (if target.italic then 3 else 23) else b).Drafts (size + 1) prev
      { a with italic := target.italic } :=
  drafts.bit (fun x => { a with italic := x }) (by decide) (by decide) (by rw [← kept]) (fun _ => rfl) fun _ => rfl

theorem Drafts.inverse (drafts : b.Drafts size prev a) (kept : a.inverse = prev.inverse) (target : Attrs) :
    (if target.inverse ≠ prev.inverse then b.param (if target.inverse then 7 else 27) else b).Drafts (size + 1) prev
      { a with inverse := target.inverse } :=
  drafts.bit (fun x => { a with inverse := x }) (by decide) (by decide) (by rw [← kept]) (fun _ => rfl) fun _ => rfl

theorem Drafts.strikethrough (drafts : b.Drafts size prev a) (kept : a.strikethrough = prev.strikethrough) (target : Attrs) :
    (if target.strikethrough ≠ prev.strikethrough then b.param (if target.strikethrough then 9 else 29) else b).Drafts
      (size + 1) prev { a with strikethrough := target.strikethrough } :=
  drafts.bit (fun x => { a with strikethrough := x }) (by decide) (by decide) (by rw [← kept]) (fun _ => rfl) fun _ => rfl

theorem Drafts.conceal (drafts : b.Drafts size prev a) (kept : a.conceal = prev.conceal) (target : Attrs) :
    (if target.conceal ≠ prev.conceal then b.param (if target.conceal then 8 else 28) else b).Drafts (size + 1) prev
      { a with conceal := target.conceal } :=
  drafts.bit (fun x => { a with conceal := x }) (by decide) (by decide) (by rw [← kept]) (fun _ => rfl) fun _ => rfl

theorem Drafts.overline (drafts : b.Drafts size prev a) (kept : a.overline = prev.overline) (target : Attrs) :
    (if target.overline ≠ prev.overline then b.param (if target.overline then 53 else 55) else b).Drafts (size + 1) prev
      { a with overline := target.overline } :=
  drafts.bit (fun x => { a with overline := x }) (by decide) (by decide) (by rw [← kept]) (fun _ => rfl) fun _ => rfl

/-- The groups in the order they are written: each sets its part of the pen and keeps the rest. -/
theorem diff_drafts (target prev : Attrs) : (SgrBuf.diff target prev).Drafts 27 prev target := by
  have colors := ((Drafts.nil prev).foreground rfl target).background rfl target
  have intensity := colors.unless (target.bold ≠ prev.bold ∨ target.dim ≠ prev.dim) (by omega)
    (fun same => by rw [not_or,not_not,not_not] at same; rw [same.1,same.2]) fun _ => colors.intensity target.bold target.dim
  have italic := intensity.italic rfl target
  have underline := italic.unless (target.underlineStyle ≠ prev.underlineStyle) (by omega)
    (fun same => by rw [not_not.mp same]) fun _ => italic.underline target.underlineStyle
  have underlineColor := underline.unless (target.underlineColor ≠ prev.underlineColor) (by omega)
    (fun same => by rw [not_not.mp same]) fun _ =>
      underline.color 58 59 (fun c => { prev with
        foreground := target.foreground
        background := target.background
        bold := target.bold
        dim := target.dim
        italic := target.italic
        underlineStyle := target.underlineStyle
        underlineColor := c }) (by decide) (by decide) (fun _ => rfl) (fun _ => rfl)
        target.underlineColor
  have strikethrough := (underlineColor.inverse rfl target).strikethrough rfl target
  have blink := strikethrough.unless
    (target.slowBlink ≠ prev.slowBlink ∨ target.rapidBlink ≠ prev.rapidBlink) (by omega)
    (fun same => by rw [not_or,not_not,not_not] at same; rw [same.1,same.2]) fun _ => strikethrough.blink target rfl rfl
  exact (blink.conceal rfl target).overline rfl target

end SgrBuf

/-! ## The diff -/

/-- One `SGR` sequence. -/
def Token.sgr (params : List Param) : Token := .csi none params none 'm'

/-- The parameters a dispatched `SGR` hands to `apply_sgr`. -/
def sgrParams (params : List (List UInt16)) : List Param := params.map (·.map UInt16.toNat)

/-- What a sequence says once it is parsed is what was written. -/
theorem applySgr_parsed {params : List Param} (legal : (Token.sgr params).WellFormed) (a : Attrs) :
    applySgr (sgrParams (if params = [] then [[0]] else params.map (·.map UInt16.ofNat))) a = applySgr params a := by
  by_cases none : params = []
  · rw [if_pos none,none]; rfl
  have back (p : Param) (inside : p ∈ params) : (p.map UInt16.ofNat).map UInt16.toNat = p := by
    rw [List.map_map]
    conv_rhs => rw [← List.map_id p]
    exact List.map_congr_left fun n member => UInt16.toNat_ofNat_of_lt' (Nat.lt_succ_of_le ((legal.2.2.1 p inside).2 n member))
  have read : sgrParams (params.map (·.map UInt16.ofNat)) = params := by
    rw [sgrParams,List.map_map]
    conv_rhs => rw [← List.map_id params]
    exact List.map_congr_left back
  rw [if_neg none,read]

/-- The bytes of the diff are at most one sequence, and applying it turns `prev` into `target`. -/
theorem writeAttrsDiff_runs (target prev : Attrs) : ∃ runs : List (List Param),
    (∀ params ∈ runs, (Token.sgr params).WellFormed) ∧
      (writeAttrsDiff target prev).run = .ok ((),encodeAll (runs.map Token.sgr)) ∧ (target = prev → runs = []) ∧
      runs.foldl (fun a params => applySgr params a) prev = target := by
  unfold writeAttrsDiff
  by_cases same : target = prev
  · exact ⟨[],by simp,by rw [if_pos same]; rfl,fun _ => rfl,same.symm⟩
  rw [if_neg same]
  by_cases plain : target = {}
  · refine ⟨[[]],?_,by rw [if_pos plain]; rfl,fun equal => absurd equal same,plain.symm⟩
    simp [Token.sgr,Token.WellFormed,u16Max]
  rw [if_neg plain]
  obtain ⟨params,holds,legal,count,runs⟩ := SgrBuf.diff_drafts target prev
  have some : params ≠ [] := by
    rintro rfl
    exact same (runs []).symm
  refine ⟨[params],?_,?_,fun equal => absurd equal same,?_⟩
  · intro other inside
    rw [List.mem_singleton.mp inside]
    exact ⟨by simp,by simp,legal,count.trans (by decide),by decide,by decide⟩
  · rw [holds.bytes,List.map_singleton,encodeAll_cons,encodeAll_nil,List.append_nil]
    simp [Token.sgr,Token.encode,ascii]
  · have whole := runs []
    rw [List.append_nil] at whole
    change applySgr params prev = target
    rw [applySgr,if_neg (by simpa using some)]
    exact whole

section
variable [UnicodeWidth]

theorem performAll_sgr {runs : List (List Param)} (legal : ∀ params ∈ runs, (Token.sgr params).WellFormed) (g : Grid) :
    g.performAll ((runs.map Token.sgr).map Token.callback) =
      .ok { g with currentAttrs := runs.foldl (fun a params => applySgr params a) g.currentAttrs } := by
  induction runs generalizing g with
  | nil => rfl
  | cons params runs ih =>
    have performed : g.perform (Token.sgr params).callback = .ok { g with currentAttrs := applySgr params g.currentAttrs } := by
      rw [← applySgr_parsed (legal params List.mem_cons_self)]
      rfl
    change g.perform (Token.sgr params).callback >>= (Grid.performAll · ((runs.map Token.sgr).map Token.callback)) = _
    rw [performed,ok_bind,ih fun other inside => legal other (List.mem_cons_of_mem params inside)]
    rfl

/-- The bytes of the diff are at most one token, and playing it turns a pen equal to `prev` into `target`. -/
theorem writeAttrsDiff_plays (target prev : Attrs) : ∃ tokens : List Token, (∀ t ∈ tokens, t.WellFormed) ∧
    (writeAttrsDiff target prev).run = .ok ((),encodeAll tokens) ∧ (target = prev → tokens = []) ∧
      ∀ g : Grid, g.currentAttrs = prev → g.performAll (tokens.map Token.callback) = .ok { g with currentAttrs := target } := by
  obtain ⟨runs,legal,written,equal,applied⟩ := writeAttrsDiff_runs target prev
  refine ⟨runs.map Token.sgr,?_,written,fun same => by rw [equal same]; rfl,fun g pen => ?_⟩
  · exact List.forall_mem_map.mpr legal
  · rw [performAll_sgr legal,pen,applied]

end

/-- Parsed and applied to a pen equal to `prev`, the bytes of the diff make it equal to
    `target`. There are none between equal pens, and never more parameters and
    subparameters than the parser keeps. -/
theorem writeAttrsDiff_exact [Vte] (laws : VteLaws) (target prev : Attrs) :
    ∃ (bytes : Bytes) (runs : List (List (List UInt16))),
    (writeAttrsDiff target prev).run = .ok ((),bytes) ∧
      (Vte.advance Vte.start bytes).2 = runs.map (fun params => .csiDispatch params [] false 'm') ∧
      runs.foldl (fun a params => applySgr (sgrParams params) a) prev = target ∧
      (∀ params ∈ runs, (params.map List.length).sum ≤ 32) ∧ (target = prev → bytes = []) := by
  obtain ⟨runs,legal,written,equal,applied⟩ := writeAttrsDiff_runs target prev
  let parsed (params : List Param) : List (List UInt16) := if params = [] then [[0]] else params.map (·.map UInt16.ofNat)
  have decoded := laws.decodes (runs.map Token.sgr) [] (List.forall_mem_map.mpr legal)
  rw [List.append_nil,laws.nothing,List.append_nil] at decoded
  refine ⟨_,runs.map parsed,written,?_,?_,?_,fun same => by rw [equal same]; rfl⟩
  · rw [decoded,List.map_map,List.map_map]
    rfl
  · rw [List.foldl_map]
    conv_rhs => rw [← applied]
    exact List.foldl_ext _ _ _ fun a params inside => applySgr_parsed (legal params inside) a
  · refine List.forall_mem_map.mpr fun params inside => ?_
    have few := (legal params inside).2.2.2.1
    dsimp only [parsed]
    split_ifs
    · decide
    · simpa [Function.comp_def] using few

section
attribute [local instance] byteParser

/-- Bold and red on the default background to dim, and underlined in a curl of its own colour. -/
theorem writeAttrsDiff_exact_styles : ∃ (bytes : Bytes) (runs : List (List (List UInt16))),
    (writeAttrsDiff { dim := true, underlineStyle := .curly, underlineColor := .rgb 1 2 3 } { bold := true, foreground := .idx 1 }).run =
        .ok ((),bytes) ∧
      (Vte.advance Vte.start bytes).2 = runs.map (fun params => .csiDispatch params [] false 'm') ∧
      runs.foldl (fun a params => applySgr (sgrParams params) a) { bold := true, foreground := .idx 1 } =
        { dim := true, underlineStyle := .curly, underlineColor := .rgb 1 2 3 } ∧
      (∀ params ∈ runs, (params.map List.length).sum ≤ 32) ∧
      (({ dim := true, underlineStyle := .curly, underlineColor := .rgb 1 2 3 } : Attrs) = { bold := true, foreground := .idx 1 } →
        bytes = []) :=
  writeAttrsDiff_exact byteParser_laws _ _

end

end Termpane
