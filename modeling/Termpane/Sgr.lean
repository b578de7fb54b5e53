import Termpane.Cell

/-!
# SGR

`apply_sgr` of `grid.rs` with the colour parsers of `parse.rs`. A parameter is
the list of its subparameters. The loop index is the list of the parameters
still to read: a parser returns how many of them it took.
-/
namespace Termpane

abbrev Param := List Nat

def underlineStyleFromSgr (style : Nat) : UnderlineStyle :=
  match style with
  | 0 => .none
  | 2 => .double
  | 3 => .curly
  | 4 => .dotted
  | 5 => .dashed
  | _ => .single

/-- `x.min(255) as u8`. -/
def clampU8 (x : Nat) : UInt8 := UInt8.ofNat (min x 255)

/-- First subparameter, 0 when there is none. -/
def Param.first (p : Param) : Nat := p.head?.getD 0

/-- Colour from a flat value list (`5;idx` or `2;r;g;b`). -/
def parseSgrColorValues (values : List Nat) : Option Color :=
  match values[0]? with
  | some 5 => values[1]?.map fun i => .idx (clampU8 i)
  | some 2 =>
    let start := if values.length ≥ 5 ∧ values[1]? = some 0 then 2 else 1
    do
      let r ← values[start]?
      let g ← values[start + 1]?
      let b ← values[start + 2]?
      return .rgb (clampU8 r) (clampU8 g) (clampU8 b)
  | _ => none

/-- Colour from colon subparameters of the current parameter or from the
    parameters after it, with how many of those were taken. -/
def parseSgrColor (current : Param) (rest : List Param) : Option Color × Nat :=
  if current.length > 1 then (parseSgrColorValues current.tail,0)
  else
    match rest with
    | [] => (none,0)
    | mode :: values =>
      match mode.first with
      | 5 =>
        match values with
        | i :: _ => (some (.idx (clampU8 i.first)),2)
        | [] => (none,0)
      | 2 =>
        match values with
        | r :: g :: b :: _ => (some (.rgb (clampU8 r.first) (clampU8 g.first) (clampU8 b.first)),4)
        | _ => (none,0)
      | _ => (none,0)

/-- One turn of the loop of `apply_sgr`. -/
def sgrParam (param : Param) (rest : List Param) (a : Attrs) : Attrs × Nat :=
  let code := param.first
  match code with
  | 0 => ({},0)
  | 1 => ({ a with bold := true },0)
  | 2 => ({ a with dim := true },0)
  | 3 => ({ a with italic := true },0)
  | 4 => ({ a with underlineStyle := underlineStyleFromSgr (param[1]?.getD 1) },0)
  | 5 => ({ a with slowBlink := true },0)
  | 6 => ({ a with rapidBlink := true },0)
  | 7 => ({ a with inverse := true },0)
  | 8 => ({ a with conceal := true },0)
  | 9 => ({ a with strikethrough := true },0)
  | 21 => ({ a with underlineStyle := .double },0)
  | 22 => ({ a with bold := false, dim := false },0)
  | 23 => ({ a with italic := false },0)
  | 24 => ({ a with underlineStyle := .none },0)
  | 25 => ({ a with slowBlink := false, rapidBlink := false },0)
  | 27 => ({ a with inverse := false },0)
  | 28 => ({ a with conceal := false },0)
  | 29 => ({ a with strikethrough := false },0)
  | 38 =>
    let (color,taken) := parseSgrColor param rest
    ({ a with foreground := color.getD a.foreground },taken)
  | 39 => ({ a with foreground := .default },0)
  | 48 =>
    let (color,taken) := parseSgrColor param rest
    ({ a with background := color.getD a.background },taken)
  | 49 => ({ a with background := .default },0)
  | 53 => ({ a with overline := true },0)
  | 55 => ({ a with overline := false },0)
  | 58 =>
    let (color,taken) := parseSgrColor param rest
    ({ a with underlineColor := color.getD a.underlineColor },taken)
  | 59 => ({ a with underlineColor := .default },0)
  | code =>
    if 30 ≤ code ∧ code ≤ 37 then ({ a with foreground := .idx (UInt8.ofNat (code - 30)) },0)
    else if 40 ≤ code ∧ code ≤ 47 then ({ a with background := .idx (UInt8.ofNat (code - 40)) },0)
    else if 90 ≤ code ∧ code ≤ 97 then ({ a with foreground := .idx (UInt8.ofNat (code - 90 + 8)) },0)
    else if 100 ≤ code ∧ code ≤ 107 then ({ a with background := .idx (UInt8.ofNat (code - 100 + 8)) },0)
    else (a,0)

/-- The loop of `apply_sgr`, at most `n` turns of it. -/
def applySgrFrom : Nat → List Param → Attrs → Attrs
  | 0, _, a => a
  | _+1, [], a => a
  | n+1, param :: rest, a =>
    let (a,taken) := sgrParam param rest a
    applySgrFrom n (rest.drop taken) a

def applySgr (params : List Param) (a : Attrs) : Attrs :=
  if params.isEmpty then {} else applySgrFrom params.length params a

end Termpane
