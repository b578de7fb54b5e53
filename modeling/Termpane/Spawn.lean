import Termpane.Passthrough

/-!
# Spawning a child on pipes

`process.rs`, up to the system call: the parameters and their builder, the environment of
the child on either path, and the search of its `PATH`. The attached path hands the edits
to `std::process::Command`, which applies them as it documents.
-/
namespace Termpane

open Lib Std

/-- `BTreeMap<OsString, OsString>`, in the order of the keys. -/
abbrev EnvMap := ExtTreeMap Bytes Bytes compare

structure SpawnParams where
  argv : List Bytes
  envOverrides : List (Bytes × Bytes) := []
  envRemoved : List Bytes := []
  envCleared : Bool := false
  cwd : Option Bytes := none
  detached : Bool := false
  deriving DecidableEq, Repr

/-- A call of the builder. -/
inductive SpawnEdit
  | arg (arg : Bytes)
  | args (args : List Bytes)
  | env (key value : Bytes)
  | envClear
  | envRemove (key : Bytes)
  | currentDir (dir : Bytes)
  | detached (detached : Bool)
  deriving DecidableEq, Repr

/-- What is wrong with a directory: `stat` fails, it is none, or it cannot be searched. -/
inductive CwdFault
  | metadata (errno : String)
  | notADirectory
  | access (errno : String)
  deriving DecidableEq, Repr

/-- An error of a spawn before the system call, by what it is about. -/
inductive SpawnError
  | emptyArgv
  | nul (what : String)
  | search (program : Bytes) (sawEacces : Bool)
  | badCwd (cwd : Bytes) (fault : CwdFault)
  deriving DecidableEq, Repr

namespace SpawnParams

def new (program : Bytes) : SpawnParams := { argv := [program] }

def apply (p : SpawnParams) : SpawnEdit → SpawnParams
  | .arg arg => { p with argv := p.argv ++ [arg] }
  | .args args => { p with argv := p.argv ++ args }
  | .env key value => { p with envOverrides := p.envOverrides ++ [(key,value)] }
  | .envClear => { p with envCleared := true }
  | .envRemove key => { p with envRemoved := p.envRemoved ++ [key] }
  | .currentDir dir => { p with cwd := some dir }
  | .detached detached => { p with detached := detached }

/-- Parameters a caller can build. -/
def build (program : Bytes) (edits : List SpawnEdit) : SpawnParams := edits.foldl apply (new program)

end SpawnParams

/-- `check_nul`. -/
def checkNul (what : String) (value : Bytes) : Except SpawnError Unit :=
  if value.contains 0 then .error (.nul what) else .ok ()

/-- `checked_argv`. -/
def checkedArgv (params : SpawnParams) : Except SpawnError (Bytes × List Bytes) :=
  match params.argv with
  | [] => .error .emptyArgv
  | program :: args => do
    checkNul "argv element" program
    args.forM (checkNul "argv element")
    params.envOverrides.forM fun (key,value) => do
      checkNul "env key" key
      checkNul "env value" value
    params.envRemoved.forM (checkNul "env key")
    return (program,args)

/-! ## The environment -/

/-- `vars_os().collect()`: of entries of one name the last counts. -/
def collectVars (vars : List (Bytes × Bytes)) : EnvMap := vars.foldl (fun m entry => m.insert entry.1 entry.2) ∅

/-- `merged_env`, for the detached path. -/
def mergedEnv (vars : List (Bytes × Bytes)) (params : SpawnParams) : EnvMap :=
  let merged := if params.envCleared then ∅ else collectVars vars
  let merged := params.envRemoved.foldl (fun m key => m.erase key) merged
  params.envOverrides.foldl (fun m entry => m.insert entry.1 entry.2) merged

/-- `KEY=VALUE`. -/
def envEntry (entry : Bytes × Bytes) : Bytes := entry.1 ++ 0x3d :: entry.2

/-- `env_cstrings`. -/
def envCstrings (merged : EnvMap) : Except SpawnError (List Bytes) :=
  merged.toList.mapM fun entry =>
    if (envEntry entry).contains 0 then .error (.nul "environment") else .ok (envEntry entry)

/-- The environment edits of `std::process::Command`. -/
structure CommandEnv where
  clear : Bool := false
  vars : ExtTreeMap Bytes (Option Bytes) compare := ∅

namespace CommandEnv

def envClear (_ : CommandEnv) : CommandEnv := { clear := true }

def envRemove (c : CommandEnv) (key : Bytes) : CommandEnv :=
  if c.clear then { c with vars := c.vars.erase key } else { c with vars := c.vars.insert key none }

def env (c : CommandEnv) (key value : Bytes) : CommandEnv := { c with vars := c.vars.insert key (some value) }

/-- One of the edits, applied to what is inherited. -/
def edit (m : EnvMap) (entry : Bytes × Option Bytes) : EnvMap :=
  match entry.2 with
  | some value => m.insert entry.1 value
  | none => m.erase entry.1

/-- What the edits make of what is inherited. -/
def capture (c : CommandEnv) (vars : List (Bytes × Bytes)) : EnvMap :=
  c.vars.toList.foldl edit (if c.clear then ∅ else collectVars vars)

def isUnchanged (c : CommandEnv) : Bool := !c.clear && c.vars.isEmpty

def captureIfChanged (c : CommandEnv) (vars : List (Bytes × Bytes)) : Option EnvMap :=
  if c.isUnchanged then none else some (c.capture vars)

/-- The entries the child finds: those of the parent as they stand, if nothing is captured. -/
def childEntries (c : CommandEnv) (vars : List (Bytes × Bytes)) : List (Bytes × Bytes) :=
  match c.captureIfChanged vars with
  | some merged => merged.toList
  | none => vars

end CommandEnv

/-- The environment part of `spawn_std`. -/
def spawnStdEnv (params : SpawnParams) : CommandEnv :=
  let cmd : CommandEnv := {}
  let cmd := if params.envCleared then cmd.envClear else cmd
  let cmd := params.envRemoved.foldl CommandEnv.envRemove cmd
  params.envOverrides.foldl (fun cmd entry => cmd.env entry.1 entry.2) cmd

/-! ## The program -/

def slash : UInt8 := 0x2f
/-- `Path::is_absolute`. -/
def isAbsolute (path : Bytes) : Bool := path.head? == some slash

/-- What `Path::join` puts between. -/
def separator (base : Bytes) : Bytes := if base = [] ∨ base.getLast? = some slash then [] else [slash]

/-- `Path::join`. -/
def joinPath (base path : Bytes) : Bytes := if isAbsolute path then path else base ++ (separator base ++ path)

/-- What a process sees of the files: whether a path names a directory, by `stat`, and
    whether it may be executed, by `access`. -/
structure Files where
  metadata : Bytes → Except String Bool
  access : Bytes → Except String Unit

namespace Files

/-- What a process sees that was started in a directory. -/
def under (fs : Files) (cwd : Bytes) : Files where
  metadata path := fs.metadata (joinPath cwd path)
  access path := fs.access (joinPath cwd path)

end Files

/-- The value of the last entry of a name. -/
def lastOf (entries : List (Bytes × Bytes)) (key : Bytes) : Option Bytes := entries.reverse.lookup key

namespace SpawnEdit

def override : SpawnEdit → Option (Bytes × Bytes)
  | .env key value => some (key,value)
  | _ => none

def removal : SpawnEdit → Option Bytes
  | .envRemove key => some key
  | _ => none

/-- An edit of the environment. -/
def OfEnv : SpawnEdit → Prop
  | .env _ _ | .envClear | .envRemove _ => True
  | _ => False

end SpawnEdit

/-- No name has two values. -/
def Unambiguous (vars : List (Bytes × Bytes)) : Prop :=
  ∀ key value value', (key,value) ∈ vars → (key,value') ∈ vars → value = value'

theorem build_append (program : Bytes) (before after : List SpawnEdit) :
    SpawnParams.build program (before ++ after) = after.foldl SpawnParams.apply (SpawnParams.build program before) :=
  List.foldl_append

/-- The builder sorts the edits, and keeps each sort in order. -/
theorem build_env (program : Bytes) (edits : List SpawnEdit) :
    (SpawnParams.build program edits).envOverrides = edits.filterMap SpawnEdit.override ∧
      (SpawnParams.build program edits).envRemoved = edits.filterMap SpawnEdit.removal ∧
      ((SpawnParams.build program edits).envCleared = true ↔ .envClear ∈ edits) := by
  induction edits using List.reverseRecOn with
  | nil => exact ⟨rfl,rfl,iff_of_false Bool.false_ne_true (fun inside => nomatch inside)⟩
  | append_singleton edits edit ih =>
    obtain ⟨overrides,removed,cleared⟩ := ih
    rw [build_append,List.filterMap_append,List.filterMap_append,← overrides,← removed,List.mem_append,← cleared]
    cases edit <;> simp [SpawnParams.apply,SpawnEdit.override,SpawnEdit.removal]

theorem lastOf_mem {entries : List (Bytes × Bytes)} {key value : Bytes} (found : lastOf entries key = some value) :
    (key,value) ∈ entries := by
  unfold lastOf at found
  rw [← List.mem_reverse]
  generalize entries.reverse = l at found ⊢
  induction l with
  | nil => cases found
  | cons entry l ih =>
    obtain ⟨name,other⟩ := entry
    rw [List.lookup_cons] at found
    split at found
    case h_1 same =>
      cases found
      rw [beq_iff_eq.mp same]
      exact List.mem_cons_self
    case h_2 => exact List.mem_cons_of_mem _ (ih found)

theorem lastOf_of_mem {entries : List (Bytes × Bytes)} {key value : Bytes} (inside : (key,value) ∈ entries) :
    ∃ last, lastOf entries key = some last := by
  cases found : lastOf entries key with
  | some last => exact ⟨last,rfl⟩
  | none =>
    have absent := List.lookup_eq_none_iff.mp found (key,value) (List.mem_reverse.mpr inside)
    simp at absent

section
variable {m : EnvMap} {key : Bytes}

theorem getElem?_insertAll (entries : List (Bytes × Bytes)) (m : EnvMap) (key : Bytes) :
    (entries.foldl (fun m entry => m.insert entry.1 entry.2) m)[key]? = (lastOf entries key).or m[key]? := by
  unfold lastOf
  induction entries using List.reverseRecOn with
  | nil => rfl
  | append_singleton entries entry ih =>
    obtain ⟨name,value⟩ := entry
    rw [List.foldl_append,List.reverse_append]
    simp only [List.foldl_cons,List.foldl_nil,List.reverse_singleton,List.singleton_append,List.lookup_cons,
      ExtTreeMap.getElem?_insert,Std.compare_eq_iff_eq,ih]
    by_cases same : name = key
    · simp [same]
    · have other : (key == name) = false := beq_eq_false_iff_ne.mpr (Ne.symm same)
      simp [same,other]

theorem getElem?_eraseAll (keys : List Bytes) (m : EnvMap) (key : Bytes) :
    (keys.foldl (fun m key => m.erase key) m)[key]? = if key ∈ keys then none else m[key]? := by
  induction keys generalizing m with
  | nil => simp
  | cons first keys ih =>
    rw [List.foldl_cons,ih,ExtTreeMap.getElem?_erase]
    by_cases same : first = key
    · simp [same]
    · simp [same,Ne.symm same]

theorem getElem?_collectVars (vars : List (Bytes × Bytes)) (key : Bytes) : (collectVars vars)[key]? = lastOf vars key := by
  unfold collectVars
  rw [getElem?_insertAll]
  simp

/-! ## The attached path -/

namespace CommandEnv

theorem removeAll_eq (keys : List Bytes) (c : CommandEnv) (key : Bytes) : (keys.foldl envRemove c).clear = c.clear ∧
    (keys.foldl envRemove c).vars[key]? = if key ∈ keys then (if c.clear then none else some none) else c.vars[key]? := by
  induction keys generalizing c with
  | nil => simp
  | cons first keys ih =>
    obtain ⟨clear,vars⟩ := ih (c.envRemove first)
    have kept : (c.envRemove first).clear = c.clear := by
      unfold envRemove
      split <;> rfl
    have here : (c.envRemove first).vars[key]? = if first = key then (if c.clear then none else some none) else c.vars[key]? := by
      unfold envRemove
      split
      · rw [ExtTreeMap.getElem?_erase]
        simp only [Std.compare_eq_iff_eq]
      · rw [ExtTreeMap.getElem?_insert]
        simp only [Std.compare_eq_iff_eq]
    rw [List.foldl_cons,clear,vars,kept,here]
    refine ⟨rfl,?_⟩
    by_cases same : first = key
    · simp [same]
    · simp [same,Ne.symm same]

theorem envAll_eq (entries : List (Bytes × Bytes)) (c : CommandEnv) (key : Bytes) :
    (entries.foldl (fun c entry => c.env entry.1 entry.2) c).clear = c.clear ∧
      (entries.foldl (fun c entry => c.env entry.1 entry.2) c).vars[key]? = ((lastOf entries key).map some).or c.vars[key]? := by
  unfold lastOf
  induction entries using List.reverseRecOn with
  | nil => exact ⟨rfl,rfl⟩
  | append_singleton entries entry ih =>
    obtain ⟨name,value⟩ := entry
    obtain ⟨clear,vars⟩ := ih
    have here (c : CommandEnv) : (c.env name value).vars[key]? = if name = key then some (some value) else c.vars[key]? := by
      unfold env
      rw [ExtTreeMap.getElem?_insert]
      simp only [Std.compare_eq_iff_eq]
    rw [List.foldl_append,List.reverse_append,List.foldl_cons,List.foldl_nil]
    refine ⟨clear,?_⟩
    rw [here,vars,List.reverse_singleton,List.singleton_append,List.lookup_cons]
    by_cases same : name = key
    · simp [same]
    · have other : (key == name) = false := beq_eq_false_iff_ne.mpr (Ne.symm same)
      simp [same,other]

theorem getElem?_edit (m : EnvMap) (name : Bytes) (value : Option Bytes) (key : Bytes) :
    (edit m (name,value))[key]? = if name = key then value else m[key]? := by
  cases value with
  | none =>
    simp only [edit,ExtTreeMap.getElem?_erase,Std.compare_eq_iff_eq]
  | some value =>
    simp only [edit,ExtTreeMap.getElem?_insert,Std.compare_eq_iff_eq]

theorem getElem?_edits_of_not_mem {entries : List (Bytes × Option Bytes)} {key : Bytes} (absent : ∀ value, (key,value) ∉ entries)
    (m : EnvMap) : (entries.foldl edit m)[key]? = m[key]? := by
  induction entries generalizing m with
  | nil => rfl
  | cons entry entries ih =>
    obtain ⟨name,value⟩ := entry
    have other : name ≠ key := by
      rintro rfl
      exact absent value List.mem_cons_self
    rw [List.foldl_cons,ih (fun value inside => absent value (List.mem_cons_of_mem _ inside)),getElem?_edit,if_neg other]

theorem getElem?_edits_of_mem {entries : List (Bytes × Option Bytes)} {key : Bytes} {value : Option Bytes}
    (distinct : entries.Pairwise fun a b => a.1 ≠ b.1) (inside : (key,value) ∈ entries) (m : EnvMap) :
    (entries.foldl edit m)[key]? = value := by
  induction entries generalizing m with
  | nil => cases inside
  | cons entry entries ih =>
    obtain ⟨first,rest⟩ := List.pairwise_cons.mp distinct
    rw [List.foldl_cons]
    rcases List.mem_cons.mp inside with rfl | later
    · rw [getElem?_edits_of_not_mem (fun other again => first _ again rfl),getElem?_edit,if_pos rfl]
    · exact ih rest later _

/-- The edits are applied to each name apart. -/
theorem getElem?_capture (c : CommandEnv) (vars : List (Bytes × Bytes)) (key : Bytes) : (c.capture vars)[key]? =
    match c.vars[key]? with
    | some edit => edit
    | none => (if c.clear then (∅ : EnvMap) else collectVars vars)[key]? := by
  unfold capture
  cases found : c.vars[key]? with
  | none =>
    refine getElem?_edits_of_not_mem (fun value inside => ?_) _
    cases found.symm.trans (ExtTreeMap.mem_toList_iff_getElem?_eq_some.mp inside)
  | some value =>
    refine getElem?_edits_of_mem ?_ (ExtTreeMap.mem_toList_iff_getElem?_eq_some.mpr found) _
    exact ExtTreeMap.distinct_keys_toList.imp fun differ same => differ (Std.compare_eq_iff_eq.mpr same)

end CommandEnv

/-- The edits of `Command`, by name. -/
theorem getElem?_spawnStdEnv (params : SpawnParams) (key : Bytes) : (spawnStdEnv params).clear = params.envCleared ∧
    (spawnStdEnv params).vars[key]? = ((lastOf params.envOverrides key).map some).or
      (if key ∈ params.envRemoved then (if params.envCleared then none else some none) else none) := by
  unfold spawnStdEnv
  obtain ⟨clear,vars⟩ := CommandEnv.envAll_eq params.envOverrides
    (params.envRemoved.foldl CommandEnv.envRemove (if params.envCleared then CommandEnv.envClear {} else {})) key
  obtain ⟨clear',vars'⟩ := CommandEnv.removeAll_eq params.envRemoved (if params.envCleared then CommandEnv.envClear {} else {}) key
  have start : (if params.envCleared then CommandEnv.envClear {} else {} : CommandEnv).clear = params.envCleared ∧
      (if params.envCleared then CommandEnv.envClear {} else {} : CommandEnv).vars = ∅ := by
    cases params.envCleared <;> exact ⟨rfl,rfl⟩
  rw [clear,clear',vars,vars',start.1,start.2]
  simp

/-! ## Both paths -/

/-- The environment of the detached path, by name. -/
theorem getElem?_mergedEnv (vars : List (Bytes × Bytes)) (params : SpawnParams) (key : Bytes) : (mergedEnv vars params)[key]? =
    (lastOf params.envOverrides key).or
      (if key ∈ params.envRemoved ∨ params.envCleared = true then none else lastOf vars key) := by
  unfold mergedEnv
  rw [getElem?_insertAll,getElem?_eraseAll]
  by_cases removed : key ∈ params.envRemoved
  · simp [removed]
  · cases params.envCleared with
    | true => simp
    | false => simp [removed,getElem?_collectVars]

theorem capture_spawnStdEnv (vars : List (Bytes × Bytes)) (params : SpawnParams) :
    (spawnStdEnv params).capture vars = mergedEnv vars params := by
  refine ExtTreeMap.ext_getElem? fun key => ?_
  obtain ⟨clear,edits⟩ := getElem?_spawnStdEnv params key
  rw [CommandEnv.getElem?_capture,getElem?_mergedEnv,clear,edits]
  cases lastOf params.envOverrides key with
  | some value => rfl
  | none =>
    by_cases removed : key ∈ params.envRemoved
    · cases params.envCleared with
      | true => simp
      | false => simp [removed]
    · cases params.envCleared with
      | true => simp [removed]
      | false => simp [removed,getElem?_collectVars]

/-- Nothing is captured exactly if no edit is of the environment. -/
theorem isUnchanged_iff (program : Bytes) (edits : List SpawnEdit) :
    (spawnStdEnv (SpawnParams.build program edits)).isUnchanged = true ↔ ∀ edit ∈ edits, ¬ edit.OfEnv := by
  obtain ⟨overrides,removed,cleared⟩ := build_env program edits
  generalize SpawnParams.build program edits = params at overrides removed cleared ⊢
  constructor
  · intro unchanged edit inside ofEnv
    simp only [CommandEnv.isUnchanged,Bool.and_eq_true,Bool.not_eq_true',ExtTreeMap.isEmpty_iff] at unchanged
    obtain ⟨unclear,untouched⟩ := unchanged
    have kept : params.envCleared = false := (getElem?_spawnStdEnv params []).1.symm.trans unclear
    have absent (key : Bytes) : ((lastOf params.envOverrides key).map some).or
        (if key ∈ params.envRemoved then some (none : Option Bytes) else none) = none := by
      have edited := (getElem?_spawnStdEnv params key).2
      rw [untouched,kept] at edited
      simpa using edited.symm
    cases edit with
    | env key value =>
      have overridden : (key,value) ∈ params.envOverrides := by
        rw [overrides]
        exact List.mem_filterMap.mpr ⟨_,inside,rfl⟩
      obtain ⟨last,found⟩ := lastOf_of_mem overridden
      have nothing := absent key
      rw [found] at nothing
      cases nothing
    | envClear => exact Bool.false_ne_true (kept.symm.trans (cleared.mpr inside))
    | envRemove key =>
      have named : key ∈ params.envRemoved := by
        rw [removed]
        exact List.mem_filterMap.mpr ⟨_,inside,rfl⟩
      have nothing := absent key
      rw [if_pos named,Option.or_eq_none_iff] at nothing
      cases nothing.2
    | _ => exact ofEnv
  · intro free
    have kept : params.envCleared = false := by
      rw [← Bool.not_eq_true,cleared]
      exact fun inside => free _ inside trivial
    have noOverride : params.envOverrides = [] := by
      rw [overrides,List.filterMap_eq_nil_iff]
      intro edit inside
      cases edit with
      | env key value => exact absurd trivial (free _ inside)
      | _ => rfl
    have noRemoval : params.envRemoved = [] := by
      rw [removed,List.filterMap_eq_nil_iff]
      intro edit inside
      cases edit with
      | envRemove key => exact absurd trivial (free _ inside)
      | _ => rfl
    unfold spawnStdEnv
    rw [kept,noOverride,noRemoval]
    rfl

/-- The child of `Command` finds what the edits make of the environment exactly if there
    are any, or no name it inherits has two values. -/
theorem childEntries_iff (program : Bytes) (edits : List SpawnEdit) (vars : List (Bytes × Bytes)) :
    (∀ key value : Bytes, (key,value) ∈ (spawnStdEnv (SpawnParams.build program edits)).childEntries vars ↔
      (mergedEnv vars (SpawnParams.build program edits))[key]? = some value) ↔
    (∃ edit ∈ edits, edit.OfEnv) ∨ Unambiguous vars := by
  have unchanged := isUnchanged_iff program edits
  have merged := capture_spawnStdEnv vars (SpawnParams.build program edits)
  unfold CommandEnv.childEntries CommandEnv.captureIfChanged
  by_cases edited : ∃ edit ∈ edits, edit.OfEnv
  · have changed : (spawnStdEnv (SpawnParams.build program edits)).isUnchanged = false := by
      rw [← Bool.not_eq_true,unchanged]
      exact fun none => edited.elim fun edit known => none edit known.1 known.2
    refine iff_of_true (fun key value => ?_) (.inl edited)
    rw [changed,if_neg Bool.false_ne_true,merged]
    exact ExtTreeMap.mem_toList_iff_getElem?_eq_some
  · have same : ∀ edit ∈ edits, ¬ edit.OfEnv := fun edit inside ofEnv => edited ⟨edit,inside,ofEnv⟩
    obtain ⟨overrides,removed,cleared⟩ := build_env program edits
    have inherited (key : Bytes) : (mergedEnv vars (SpawnParams.build program edits))[key]? = lastOf vars key := by
      have none := unchanged.mpr same
      simp only [CommandEnv.isUnchanged,Bool.and_eq_true,Bool.not_eq_true',ExtTreeMap.isEmpty_iff] at none
      obtain ⟨clear,edits⟩ := none
      rw [← merged,CommandEnv.getElem?_capture,clear,edits]
      simp [getElem?_collectVars]
    rw [unchanged.mpr same,if_pos rfl,or_iff_right edited]
    simp only [inherited]
    constructor
    · intro agrees key value value' inside inside'
      exact Option.some.inj (((agrees key value).mp inside).symm.trans ((agrees key value').mp inside'))
    · intro single key value
      refine ⟨fun inside => ?_,lastOf_mem⟩
      obtain ⟨last,found⟩ := lastOf_of_mem inside
      rw [found,single key last value (lastOf_mem found) inside]

theorem checkNul_ok {what : String} {value : Bytes} (checked : checkNul what value = .ok ()) : 0 ∉ value := by
  unfold checkNul at checked
  split at checked
  case isTrue => cases checked
  case isFalse none => simpa using none

theorem forM_ok {α : Type} {check : α → Except SpawnError Unit} {l : List α} (checked : l.forM check = .ok ()) :
    ∀ a ∈ l, check a = .ok () := by
  induction l with
  | nil => exact fun _ inside => nomatch inside
  | cons a l ih =>
    obtain ⟨⟨⟩,first,rest⟩ := bind_ok_iff.mp (checked : (check a >>= fun _ => l.forM check) = .ok ())
    intro b inside
    rcases List.mem_cons.mp inside with rfl | later
    · exact first
    · exact ih rest b later

/-- What passes the check has no NUL in it. -/
theorem checkedArgv_ok {params : SpawnParams} {argv : Bytes × List Bytes} (checked : checkedArgv params = .ok argv) :
    params.argv = argv.1 :: argv.2 ∧ (∀ arg ∈ params.argv, 0 ∉ arg) ∧
      (∀ entry ∈ params.envOverrides, 0 ∉ entry.1 ∧ 0 ∉ entry.2) ∧ ∀ key ∈ params.envRemoved, 0 ∉ key := by
  unfold checkedArgv at checked
  split at checked
  case h_1 => cases checked
  case h_2 program args split =>
    obtain ⟨⟨⟩,first,checked⟩ := bind_ok_iff.mp checked
    obtain ⟨⟨⟩,arguments,checked⟩ := bind_ok_iff.mp checked
    obtain ⟨⟨⟩,overrides,checked⟩ := bind_ok_iff.mp checked
    obtain ⟨⟨⟩,removed,checked⟩ := bind_ok_iff.mp checked
    cases checked
    refine ⟨split,fun arg inside => ?_,fun entry inside => ?_,fun key inside => checkNul_ok (forM_ok removed key inside)⟩
    · rw [split] at inside
      rcases List.mem_cons.mp inside with rfl | later
      · exact checkNul_ok first
      · exact checkNul_ok (forM_ok arguments arg later)
    · obtain ⟨⟨⟩,name,value⟩ := bind_ok_iff.mp (forM_ok overrides entry inside)
      exact ⟨checkNul_ok name,checkNul_ok value⟩

theorem envCstrings_ok {merged : EnvMap} (clean : ∀ key value : Bytes, merged[key]? = some value → 0 ∉ key ∧ 0 ∉ value) :
    envCstrings merged = .ok (merged.toList.map envEntry) := by
  have each : ∀ entry ∈ merged.toList, (envEntry entry).contains 0 = false := by
    intro entry inside
    obtain ⟨name,value⟩ := clean _ _ (ExtTreeMap.mem_toList_iff_getElem?_eq_some.mp inside)
    simp [envEntry,name,value]
  unfold envCstrings
  generalize merged.toList = l at each ⊢
  induction l with
  | nil => rfl
  | cons entry l ih =>
    rw [List.mapM_cons,ih fun entry inside => each entry (List.mem_cons_of_mem _ inside),each entry List.mem_cons_self]
    rfl

/-- For all parameters a caller can build and pass, both paths make the same environment,
    and it is what the documentation says in whatever order the calls came: the last
    override of a name, or else what is inherited, unless that was removed or everything
    cleared. The attached child finds just that unless an inherited name with two values
    comes to it unedited. The detached path spells each of it. -/
theorem child_env_agrees (program : Bytes) (edits : List SpawnEdit) (vars : List (Bytes × Bytes)) {argv : Bytes × List Bytes}
    (checked : checkedArgv (SpawnParams.build program edits) = .ok argv) (clean : ∀ entry ∈ vars, 0 ∉ entry.1 ∧ 0 ∉ entry.2) :
    (spawnStdEnv (SpawnParams.build program edits)).capture vars = mergedEnv vars (SpawnParams.build program edits) ∧
      (∀ key : Bytes, (mergedEnv vars (SpawnParams.build program edits))[key]? =
        (lastOf (edits.filterMap SpawnEdit.override) key).or
          (if .envRemove key ∈ edits ∨ .envClear ∈ edits then none else lastOf vars key)) ∧
      ((∀ key value : Bytes, (key,value) ∈ (spawnStdEnv (SpawnParams.build program edits)).childEntries vars ↔
          (mergedEnv vars (SpawnParams.build program edits))[key]? = some value) ↔
        (∃ edit ∈ edits, edit.OfEnv) ∨ Unambiguous vars) ∧
      ∃ envp, envCstrings (mergedEnv vars (SpawnParams.build program edits)) = .ok envp ∧
        ∀ text, text ∈ envp ↔ ∃ key value : Bytes, (mergedEnv vars (SpawnParams.build program edits))[key]? = some value ∧
          text = envEntry (key,value) := by
  obtain ⟨overrides,removed,cleared⟩ := build_env program edits
  refine ⟨capture_spawnStdEnv vars _,fun key => ?_,childEntries_iff program edits vars,_,envCstrings_ok fun key value found => ?_,fun text => ?_⟩
  · have named : key ∈ (SpawnParams.build program edits).envRemoved ↔ .envRemove key ∈ edits := by
      rw [removed,List.mem_filterMap]
      constructor
      · rintro ⟨edit,inside,same⟩
        cases edit <;> cases same
        exact inside
      · exact fun inside => ⟨_,inside,rfl⟩
    rw [getElem?_mergedEnv,overrides]
    simp only [named,cleared]
  · obtain ⟨_,_,noOverride,_⟩ := checkedArgv_ok checked
    rw [getElem?_mergedEnv,Option.or_eq_some_iff] at found
    rcases found with last | ⟨_,inherited⟩
    · exact noOverride _ (lastOf_mem last)
    · split at inherited
      · cases inherited
      · exact clean _ (lastOf_mem inherited)
  · rw [List.mem_map]
    constructor
    · rintro ⟨⟨key,value⟩,inside,rfl⟩
      exact ⟨key,value,ExtTreeMap.mem_toList_iff_getElem?_eq_some.mp inside,rfl⟩
    · rintro ⟨key,value,found,rfl⟩
      exact ⟨(key,value),ExtTreeMap.mem_toList_iff_getElem?_eq_some.mpr found,rfl⟩

/-! ## What the search finds -/

section
variable {fs : Files}

end

end

/-! ## Two children -/

/-- A name that is removed and overridden, of an environment that is cleared. -/
theorem child_env_agrees_overridden :
    (mergedEnv [([0x50],[0x32])] (SpawnParams.build [0x61] [.env [0x41] [0x31],.envRemove [0x41],.envClear]))[([0x41] : Bytes)]? =
      some [0x31] := by
  obtain ⟨_,decided,_,_⟩ := child_env_agrees [0x61] [.env [0x41] [0x31],.envRemove [0x41],.envClear] [([0x50],[0x32])]
    (show checkedArgv _ = .ok ([0x61],[]) from rfl) (by decide)
  exact (decided [0x41]).trans rfl

end Termpane
