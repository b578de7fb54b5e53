import Termpane.SgrDiff
import Termpane.Calls

/-!
# The spellings of a colour

A colour stands in a list of SGR parameters as parameters of their own (`38;2;r;g;b`) or as
the subparameters of one, with a colour space id (`38:2:Pi:r:g:b`) or without one. What the
loop of `apply_sgr` makes of the one and of the other, wherever it meets them.
-/
namespace Termpane

/-! ## The colours of a pen -/

/-- The colours that `38`, `48` and `58` set. -/
inductive ColorSlot
  | foreground
  | background
  | underline
  deriving DecidableEq, Repr

namespace ColorSlot

def code : ColorSlot → Nat
  | foreground => 38
  | background => 48
  | underline => 58

def get : ColorSlot → Attrs → Color
  | foreground, a => a.foreground
  | background, a => a.background
  | underline, a => a.underlineColor

def set : ColorSlot → Color → Attrs → Attrs
  | foreground, c, a => { a with foreground := c }
  | background, c, a => { a with background := c }
  | underline, c, a => { a with underlineColor := c }

@[simp] theorem get_set (slot : ColorSlot) (c : Color) (a : Attrs) : slot.get (slot.set c a) = c := by cases slot <;> rfl

/-- The codes that name a colour of the sixteen. -/
def Named : ColorSlot → Nat → Prop
  | foreground, code => (30 ≤ code ∧ code ≤ 37) ∨ (90 ≤ code ∧ code ≤ 97)
  | background, code => (40 ≤ code ∧ code ≤ 47) ∨ (100 ≤ code ∧ code ≤ 107)
  | underline, _ => False

instance (slot : ColorSlot) (code : Nat) : Decidable (slot.Named code) := by
  cases slot <;> unfold Named <;> infer_instance

/-- The parameters at which the pen takes that colour anew, whatever it was. -/
def Sets (slot : ColorSlot) (param : Param) (rest : List Param) : Prop :=
  param.first = 0 ∨ (param.first = slot.code ∧ (parseSgrColor param rest).1.isSome = true) ∨
    param.first = slot.code + 1 ∨ slot.Named param.first

instance (slot : ColorSlot) (param : Param) (rest : List Param) : Decidable (slot.Sets param rest) :=
  inferInstanceAs (Decidable (_ ∨ _))

end ColorSlot

/-- A turn either takes a colour anew or leaves it. -/
theorem sgrParam_set (slot : ColorSlot) (param : Param) (rest : List Param) (c : Color) (a : Attrs) :
    sgrParam param rest (slot.set c a) =
      if slot.Sets param rest then sgrParam param rest a
      else (slot.set c (sgrParam param rest a).1,(sgrParam param rest a).2) := by
  unfold sgrParam
  dsimp only
  split
  case h_19 | h_21 | h_25 =>
    rename_i is
    cases slot <;> simp [ColorSlot.Sets,is,ColorSlot.code,ColorSlot.Named,ColorSlot.set]
    cases (parseSgrColor param rest).1 <;> rfl
  case h_27 =>
    -- the sixteen colours, or no code of the pen's
    cases slot <;> simp only [ColorSlot.Sets,ColorSlot.code,ColorSlot.Named,ColorSlot.set,or_false] <;> split_ifs
    all_goals first | rfl | grind
  all_goals
    rename_i is
    cases slot <;> simp [ColorSlot.Sets,is,ColorSlot.code,ColorSlot.Named,ColorSlot.set]

/-! ## Turns of the loop -/

/-- The codes that read a colour. -/
def ReadsColor (code : Nat) : Prop := code = 38 ∨ code = 48 ∨ code = 58

instance (code : Nat) : Decidable (ReadsColor code) := inferInstanceAs (Decidable (_ ∨ _))

theorem ColorSlot.readsColor (slot : ColorSlot) : ReadsColor slot.code := by cases slot <;> decide

/-- How many of the parameters after it a parameter takes. -/
def takenBy (param : Param) (rest : List Param) : Nat := if ReadsColor param.first then (parseSgrColor param rest).2 else 0

theorem sgrParam_snd (param : Param) (rest : List Param) (a : Attrs) : (sgrParam param rest a).2 = takenBy param rest := by
  unfold sgrParam takenBy
  dsimp only
  split
  case h_19 | h_21 | h_25 =>
    rename_i is
    simp [is,ReadsColor]
  case h_27 =>
    have other : ¬ ReadsColor param.first := by
      unfold ReadsColor
      grind
    rw [if_neg other]
    split_ifs <;> rfl
  all_goals
    rename_i is
    simp [is,ReadsColor]

/-- Only a colour looks at the parameters after it. -/
theorem sgrParam_congr {param : Param} {rest rest' : List Param}
    (parses : ReadsColor param.first → parseSgrColor param rest = parseSgrColor param rest') (a : Attrs) :
    sgrParam param rest a = sgrParam param rest' a := by
  by_cases reads : ReadsColor param.first
  · unfold sgrParam
    rw [parses reads]
  · unfold sgrParam
    dsimp only
    split
    case h_19 | h_21 | h_25 =>
      rename_i is
      exact absurd (by simp [is,ReadsColor]) reads
    all_goals rfl

/-- The parameters at which the loop of `apply_sgr` takes a turn, each with those after it. -/
def turns : List Param → List (Param × List Param)
  | [] => []
  | param :: rest => (param,rest) :: turns (rest.drop (takenBy param rest))
termination_by params => params.length
decreasing_by rw [List.length_drop,List.length_cons]; omega

@[simp] theorem turns_nil : turns [] = [] := by rw [turns]

theorem turns_cons (param : Param) (rest : List Param) :
    turns (param :: rest) = (param,rest) :: turns (rest.drop (takenBy param rest)) := by rw [turns]

theorem length_of_mem_turns {params : List Param} {turn : Param × List Param} (inside : turn ∈ turns params) :
    turn.2.length < params.length := by
  induction params using turns.induct with
  | case1 => simp at inside
  | case2 param rest ih =>
    rw [turns_cons] at inside
    rcases List.mem_cons.mp inside with rfl | later
    · simp
    · have short := ih later
      simp at short ⊢
      omega

/-- A parameter is read at a turn, or it is an argument of a colour read before it. -/
theorem read_or_taken {params before rest : List Param} {param : Param} (split : params = before ++ param :: rest) :
    (param,rest) ∈ turns params ∨
      ∃ turn ∈ turns params, rest.length < turn.2.length ∧ turn.2.length ≤ rest.length + takenBy turn.1 turn.2 := by
  induction params using turns.induct generalizing before with
  | case1 => simp at split
  | case2 first tail ih =>
    rw [turns_cons]
    cases before with
    | nil =>
      cases split
      exact .inl List.mem_cons_self
    | cons _ before =>
      cases split
      by_cases past : takenBy first (before ++ param :: rest) ≤ before.length
      · rcases ih (List.drop_append_of_le_length past) with read | ⟨turn,inside,taken⟩
        · exact .inl (List.mem_cons_of_mem _ read)
        · exact .inr ⟨turn,List.mem_cons_of_mem _ inside,taken⟩
      · refine .inr ⟨_,List.mem_cons_self,?_,?_⟩
        · simp
          omega
        · simp
          omega

/-- Some turn takes that colour anew. -/
def ColorSlot.Overwritten (slot : ColorSlot) (params : List Param) : Prop := ∃ turn ∈ turns params, slot.Sets turn.1 turn.2

theorem ColorSlot.overwritten_cons (slot : ColorSlot) (param : Param) (rest : List Param) :
    slot.Overwritten (param :: rest) ↔ slot.Sets param rest ∨ slot.Overwritten (rest.drop (takenBy param rest)) := by
  simp [ColorSlot.Overwritten,turns_cons]

instance (slot : ColorSlot) (params : List Param) : Decidable (slot.Overwritten params) :=
  inferInstanceAs (Decidable (∃ turn ∈ turns params, slot.Sets turn.1 turn.2))

/-- A colour of the pen goes through a list of parameters untouched or is lost there. -/
theorem runSgr_set (slot : ColorSlot) (params : List Param) (c : Color) (a : Attrs) :
    runSgr params (slot.set c a) = if slot.Overwritten params then runSgr params a else slot.set c (runSgr params a) := by
  induction params using turns.induct generalizing a with
  | case1 => simp [ColorSlot.Overwritten,runSgr,applySgrFrom]
  | case2 param rest ih =>
    rw [runSgr_cons,runSgr_cons,sgrParam_set]
    by_cases sets : slot.Sets param rest
    · simp [sets,ColorSlot.overwritten_cons]
    · simp only [sgrParam_snd] at ih ⊢
      simp [sets,ColorSlot.overwritten_cons,ih]

theorem runSgr_set_inj (slot : ColorSlot) (params : List Param) (c d : Color) (a : Attrs) :
    runSgr params (slot.set c a) = runSgr params (slot.set d a) ↔ c = d ∨ slot.Overwritten params := by
  rw [runSgr_set,runSgr_set]
  by_cases lost : slot.Overwritten params
  · simp [lost]
  · simp only [if_neg lost]
    constructor
    · intro same
      have colors := congrArg slot.get same
      simp only [ColorSlot.get_set] at colors
      exact .inl colors
    · rintro (rfl | again)
      · rfl
      · exact absurd again lost

/-! ## A colour in a list -/

/-- A turn that takes nothing of a colour does not see how the colour is spelled. -/
theorem parseSgrColor_before (param : Param) {before : List Param} {first second third first' : Param} {later later' : List Param}
    (color : ReadsColor first.first) (same : first'.first = first.first)
    (fits : (parseSgrColor param (before ++ first :: second :: third :: later)).2 ≤ before.length) :
    parseSgrColor param (before ++ first' :: later') = parseSgrColor param (before ++ first :: second :: third :: later) := by
  have apart : first.first ≠ 5 ∧ first.first ≠ 2 := by
    unfold ReadsColor at color
    omega
  unfold parseSgrColor at fits ⊢
  by_cases colons : param.length > 1
  · rw [if_pos colons,if_pos colons]
  rw [if_neg colons] at fits
  rw [if_neg colons,if_neg colons]
  cases before with
  | nil =>
    simp only [List.nil_append,same]
    grind
  | cons mode values =>
    simp only [List.cons_append] at fits ⊢
    rcases values with _ | ⟨r,_ | ⟨g,_ | ⟨b,values⟩⟩⟩
    all_goals grind

/-- Where the loop meets a colour, the pen it has there and the way it got there do not
    depend on how the colour is spelled. -/
theorem runSgr_before {before : List Param} {first second third first' : Param} {later later' : List Param}
    (color : ReadsColor first.first) (same : first'.first = first.first)
    (read : (first,second :: third :: later) ∈ turns (before ++ first :: second :: third :: later)) :
    ∃ pen : Attrs → Attrs, ∀ a,
      runSgr (before ++ first :: second :: third :: later) a = runSgr (first :: second :: third :: later) (pen a) ∧
        runSgr (before ++ first' :: later') a = runSgr (first' :: later') (pen a) := by
  induction h : before.length using Nat.strongRecOn generalizing before with
  | ind n ih =>
    cases before with
    | nil => exact ⟨id,fun a => ⟨rfl,rfl⟩⟩
    | cons param before =>
      rw [List.cons_append,turns_cons] at read
      rcases List.mem_cons.mp read with here | next
      · have lengths := congrArg (fun turn => turn.2.length) here
        simp at lengths
        omega
      · have fits : takenBy param (before ++ first :: second :: third :: later) ≤ before.length := by
          have short := length_of_mem_turns next
          simp at short
          omega
        have turn : ∀ a, sgrParam param (before ++ first' :: later') a =
            sgrParam param (before ++ first :: second :: third :: later) a := by
          intro a
          apply sgrParam_congr
          intro reads
          rw [takenBy,if_pos reads] at fits
          exact parseSgrColor_before param color same fits
        have goesOn : ∀ {tail : List Param}, (before ++ tail).drop (takenBy param (before ++ first :: second :: third :: later)) =
            before.drop (takenBy param (before ++ first :: second :: third :: later)) ++ tail := fun {tail} =>
          List.drop_append_of_le_length fits
        rw [goesOn] at next
        obtain ⟨pen,alike⟩ := ih _ (by simp at h ⊢; omega) next rfl
        refine ⟨fun a => pen (sgrParam param (before ++ first :: second :: third :: later) a).1,fun a => ⟨?_,?_⟩⟩
        · rw [List.cons_append,runSgr_cons,sgrParam_snd,goesOn]
          exact (alike _).1
        · rw [List.cons_append,runSgr_cons,turn,sgrParam_snd,goesOn]
          exact (alike _).2

/-! ## Spellings -/

/-- A colour as it is spelled with colons. An empty colour space id is read as 0. -/
inductive Spelling
  | rgb (r g b : Nat)
  | spaced (space r g b : Nat)
  | palette (i : Nat)

namespace Spelling

/-- `38:2:r:g:b`, `38:2:Pi:r:g:b` and `38:5:i`. -/
def colons (code : Nat) : Spelling → Param
  | rgb r g b => [code,2,r,g,b]
  | spaced space r g b => [code,2,space,r,g,b]
  | palette i => [code,5,i]

/-- What follows the code in `38;2;r;g;b` and `38;5;i`. -/
def semicolons : Spelling → List Param
  | rgb r g b => [[2],[r],[g],[b]]
  | spaced _ r g b => [[2],[r],[g],[b]]
  | palette i => [[5],[i]]

/-- The colour in either. -/
def color : Spelling → Color
  | rgb r g b => .rgb (clampU8 r) (clampU8 g) (clampU8 b)
  | spaced _ r g b => .rgb (clampU8 r) (clampU8 g) (clampU8 b)
  | palette i => .idx (clampU8 i)

/-- Where the colons say what the semicolons say: in front of three components a colour
    space is skipped only if it is 0, and is else read as the first of them. -/
def Agrees : Spelling → Prop
  | spaced space r g b => space = 0 ∨ (min space 255 = min r 255 ∧ min r 255 = min g 255 ∧ min g 255 = min b 255)
  | _ => True

instance : DecidablePred Agrees := fun s => by cases s <;> unfold Agrees <;> infer_instance

theorem clampU8_inj {x y : Nat} : clampU8 x = clampU8 y ↔ min x 255 = min y 255 := by
  unfold clampU8
  rw [← UInt8.toNat_inj,UInt8.toNat_ofNat_of_lt' (by change _ < 256; omega),UInt8.toNat_ofNat_of_lt' (by change _ < 256; omega)]

theorem turn_semicolons (slot : ColorSlot) (s : Spelling) (after : List Param) (a : Attrs) :
    sgrParam [slot.code] (s.semicolons ++ after) a = (slot.set s.color a,s.semicolons.length) := by
  cases slot <;> cases s <;> rfl

theorem turn_colons (slot : ColorSlot) (s : Spelling) (after : List Param) (a : Attrs) :
    ∃ c, (c = s.color ↔ s.Agrees) ∧ sgrParam (s.colons slot.code) after a = (slot.set c a,0) := by
  cases s with
  | rgb r g b => exact ⟨_,⟨fun _ => trivial,fun _ => rfl⟩,by cases slot <;> rfl⟩
  | palette i => exact ⟨_,⟨fun _ => trivial,fun _ => rfl⟩,by cases slot <;> rfl⟩
  | spaced space r g b =>
    by_cases skipped : space = 0
    · subst skipped
      exact ⟨_,⟨fun _ => .inl rfl,fun _ => rfl⟩,by cases slot <;> rfl⟩
    · refine ⟨.rgb (clampU8 space) (clampU8 r) (clampU8 g),?_,?_⟩
      · simp [color,Agrees,clampU8_inj,skipped]
      · have read : parseSgrColorValues [2,space,r,g,b] = some (.rgb (clampU8 space) (clampU8 r) (clampU8 g)) := by
          simp [parseSgrColorValues,skipped]
        cases slot <;> simp [sgrParam,colons,Param.first,ColorSlot.code,parseSgrColor,read,ColorSlot.set]

end Spelling

theorem applySgr_eq {params : List Param} (some : params ≠ []) (a : Attrs) : applySgr params a = runSgr params a := by
  cases params with
  | nil => exact absurd rfl some
  | cons param rest => rfl

/-- Wherever a list of parameters has a colour, its spellings make the same of every pen
    unless a colour space other than 0 is read as a component, and then if the components
    do not show it or the colour is set once more after that. -/
theorem Spelling.same_pen_iff (slot : ColorSlot) (s : Spelling) {before after : List Param}
    (read : ([slot.code],s.semicolons ++ after) ∈ turns (before ++ [slot.code] :: (s.semicolons ++ after))) :
    (∀ a, applySgr (before ++ [slot.code] :: (s.semicolons ++ after)) a = applySgr (before ++ s.colons slot.code :: after) a) ↔
      s.Agrees ∨ slot.Overwritten after := by
  obtain ⟨second,third,later,shape⟩ : ∃ second third later, s.semicolons ++ after = second :: third :: later := by
    cases s <;> exact ⟨_,_,_,rfl⟩
  have first : (s.colons slot.code).first = Param.first [slot.code] := by cases s <;> rfl
  rw [shape] at read
  have color : ReadsColor (Param.first [slot.code]) := slot.readsColor
  obtain ⟨pen,meets⟩ := runSgr_before color first read
  have sides : ∀ a, applySgr (before ++ [slot.code] :: (s.semicolons ++ after)) a = applySgr (before ++ s.colons slot.code :: after) a ↔
      s.Agrees ∨ slot.Overwritten after := by
    intro a
    obtain ⟨c,agrees,turn⟩ := s.turn_colons slot after (pen a)
    rw [applySgr_eq (by simp),applySgr_eq (by simp),shape,(meets a).1,(meets a).2,← shape,runSgr_cons,runSgr_cons,
      s.turn_semicolons,turn,List.drop_left,List.drop_zero,runSgr_set_inj,← agrees]
    rw [eq_comm]
  exact ⟨fun all => (sides {}).mp (all {}),fun holds a => (sides a).mpr holds⟩

/-- A colour set once more. -/
theorem Spelling.same_pen_iff_reset : applySgr [[1],[38],[2],[10],[20],[30],[39]] { italic := true } =
    applySgr [[1],[38,2,1,10,20,30],[39]] { italic := true } := by
  have read : ([38],(spaced 1 10 20 30).semicolons ++ [[39]]) ∈ turns ([[1]] ++ [38] :: ((spaced 1 10 20 30).semicolons ++ [[39]])) := by
    simp [turns_cons,takenBy,Param.first,ReadsColor]
  have again : ColorSlot.foreground.Overwritten [[39]] := by
    simp [ColorSlot.overwritten_cons,ColorSlot.Sets,Param.first,ColorSlot.code]
  exact (same_pen_iff .foreground (.spaced 1 10 20 30) read).mpr (.inr again) _

section
attribute [local instance] byteParser blockWidth

/-- With a colour space of 1, `ESC[38:2:1:10:20:30m` is not the colour of
    `ESC[38;2;10;20;30m`. -/
theorem Spelling.space_shown :
    applySgr [[38],[2],[10],[20],[30]] {} ≠ applySgr [[38,2,1,10,20,30]] {} ∧
      ((DamageGrid.new 1 1 0).call (.process [0x1b,0x5b,0x33,0x38,0x3b,0x32,0x3b,0x31,0x30,0x3b,0x32,0x30,0x3b,0x33,0x30,0x6d])).map
        (·.grid.currentAttrs.foreground) = .ok (.rgb 10 20 30) ∧
      ((DamageGrid.new 1 1 0).call (.process
          [0x1b,0x5b,0x33,0x38,0x3a,0x32,0x3a,0x31,0x3a,0x31,0x30,0x3a,0x32,0x30,0x3a,0x33,0x30,0x6d])).map
        (·.grid.currentAttrs.foreground) = .ok (.rgb 1 10 20) := by
  refine ⟨by decide,rfl,rfl⟩

end

end Termpane
