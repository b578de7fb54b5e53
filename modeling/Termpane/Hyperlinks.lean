import Termpane.Printing
import Termpane.Lib.Recency

/-!
# Shared links

`intern_hyperlink` with the identity of the links it hands out: the cells written while a
link is active share the entry that opening it returned. The grid keeps the links by value
and is what is seen of this.
-/
namespace Termpane

open Lib

/-- An `Arc<Hyperlink>`: the allocation and what is in it. -/
structure LinkArc where
  allocation : Nat
  link : Hyperlink
  deriving DecidableEq, Repr

/-- `recent_hyperlinks`, with a count of the links ever allocated. -/
structure LinkTable where
  recentHyperlinks : List LinkArc := []
  allocated : Nat := 0
  deriving DecidableEq, Repr

namespace LinkTable

/-- `Arc::new`. -/
def new (t : LinkTable) (link : Hyperlink) : LinkArc := { allocation := t.allocated, link := link }

def internHyperlink (t : LinkTable) (id uri : List Char) : Checked (LinkArc × LinkTable) :=
  match t.recentHyperlinks.findIdx? fun arc => arc.link.id = id ∧ arc.link.uri = uri with
  | some position => do
    -- `make_contiguous()[..=position].rotate_right(1)`
    let recent := (t.recentHyperlinks.take (position + 1)).rotateRight ++ t.recentHyperlinks.drop (position + 1)
    let front ← at? recent 0
    return (front,{ t with recentHyperlinks := recent })
  | none =>
    let link := t.new { id := id, uri := uri }
    let kept := if t.recentHyperlinks.length = osc8RecentMax then t.recentHyperlinks.dropLast else t.recentHyperlinks
    .ok (link,{ recentHyperlinks := link :: kept, allocated := t.allocated + 1 })

/-- A link is opened, and the entry returned for it noted. -/
def openLink (s : List LinkArc × LinkTable) (link : Hyperlink) : Checked (List LinkArc × LinkTable) := do
  let (entry,t) ← s.2.internHyperlink link.id link.uri
  return (s.1 ++ [entry],t)

/-- The links of a table, as the grid has them. -/
def links (t : LinkTable) : List Hyperlink := t.recentHyperlinks.map (·.link)

/-! ## One opening -/

/-- The entry that opening a link returns. -/
def entryOf (t : LinkTable) (link : Hyperlink) : LinkArc := (t.recentHyperlinks.find? fun arc => arc.link = link).getD (t.new link)

/-- The table after that. -/
def after (t : LinkTable) (link : Hyperlink) : LinkTable where
  recentHyperlinks := access osc8RecentMax t.recentHyperlinks (t.entryOf link)
  allocated := if link ∈ t.links then t.allocated else t.allocated + 1

theorem entryOf_link (t : LinkTable) (link : Hyperlink) : (t.entryOf link).link = link := by
  unfold entryOf
  cases found : t.recentHyperlinks.find? fun arc => arc.link = link with
  | none => rfl
  | some arc => simpa using List.find?_some found

theorem entryOf_of_mem {t : LinkTable} (nodup : t.links.Nodup) {arc : LinkArc} (known : arc ∈ t.recentHyperlinks) :
    t.entryOf arc.link = arc := by
  unfold entryOf
  cases found : t.recentHyperlinks.find? fun other => other.link = arc.link with
  | none => simpa using List.find?_eq_none.mp found arc known
  | some other =>
    have same : other.link = arc.link := by simpa using List.find?_some found
    exact List.inj_on_of_nodup_map nodup (List.mem_of_find?_eq_some found) known same

theorem entryOf_of_not_mem {t : LinkTable} {link : Hyperlink} (unknown : link ∉ t.links) : t.entryOf link = t.new link := by
  have none : t.recentHyperlinks.find? (fun arc => arc.link = link) = none := by
    rw [List.find?_eq_none]
    intro arc inside same
    exact unknown (List.mem_map.mpr ⟨arc,inside,by simpa using same⟩)
  rw [entryOf,none]
  rfl

/-- `rotate_right(1)` brings the last element to the front. -/
theorem rotateRight_concat {α : Type} (l : List α) (a : α) : (l ++ [a]).rotateRight = a :: l := by
  unfold List.rotateRight
  cases l with
  | nil => rfl
  | cons b l =>
    have length : (b :: l ++ [a]).length = l.length + 2 := by simp
    have one : 1 % (l.length + 2) = 1 := Nat.mod_eq_of_lt (by omega)
    rw [if_neg (by rw [length]; omega),length,one]
    simp

/-- The entry of a link is brought to the front, or made there. -/
theorem internHyperlink_eq {t : LinkTable} (nodup : t.links.Nodup) (room : t.recentHyperlinks.length ≤ osc8RecentMax)
    (link : Hyperlink) : t.internHyperlink link.id link.uri = .ok (t.entryOf link,t.after link) := by
  have same : (fun arc : LinkArc => decide (arc.link.id = link.id ∧ arc.link.uri = link.uri)) = fun arc => decide (arc.link = link) := by
    funext arc
    rw [decide_eq_decide,← Hyperlink.mk.injEq]
  unfold internHyperlink after
  rw [same]
  cases found : t.recentHyperlinks.findIdx? fun arc => decide (arc.link = link) with
  | some position =>
    obtain ⟨inside,here,_⟩ := List.findIdx?_eq_some_iff_getElem.mp found
    have listed : t.recentHyperlinks[position] ∈ t.recentHyperlinks := List.getElem_mem inside
    have isLink : t.recentHyperlinks[position].link = link := by simpa using here
    have known : link ∈ t.links := List.mem_map.mpr ⟨_,listed,isLink⟩
    have entry : t.entryOf link = t.recentHyperlinks[position] := by rw [← isLink,entryOf_of_mem nodup listed]
    have rotated : (t.recentHyperlinks.take (position + 1)).rotateRight ++ t.recentHyperlinks.drop (position + 1) =
        access osc8RecentMax t.recentHyperlinks (t.entryOf link) := by
      rw [entry,access_of_mem listed room,List.take_succ_eq_append_getElem inside,rotateRight_concat,
        (List.Nodup.of_map _ nodup).erase_getElem position inside,List.eraseIdx_eq_take_drop_succ]
      rfl
    simp only [rotated,if_pos known]
    rw [entry,access_of_mem listed room]
    rfl
  | none =>
    have unknown : link ∉ t.links := by
      intro inside
      obtain ⟨arc,listed,isLink⟩ := List.mem_map.mp inside
      have other := List.findIdx?_eq_none_iff.mp found arc listed
      simp [isLink] at other
    have entry : t.entryOf link = t.new link := entryOf_of_not_mem unknown
    have unlisted : t.new link ∉ t.recentHyperlinks := fun listed => unknown (List.mem_map.mpr ⟨_,listed,rfl⟩)
    have kept : (if t.recentHyperlinks.length = osc8RecentMax then t.recentHyperlinks.dropLast else t.recentHyperlinks) =
        t.recentHyperlinks.take 7 := by
      split_ifs with full
      · rw [List.dropLast_eq_take,full]
        rfl
      · rw [List.take_of_length_le (show t.recentHyperlinks.length ≤ 7 by unfold osc8RecentMax at room full; omega)]
    have pushed : access osc8RecentMax t.recentHyperlinks (t.new link) = t.new link :: t.recentHyperlinks.take 7 :=
      access_of_not_mem unlisted
    rw [entry,pushed,if_neg unknown,kept]

/-! ## Runs -/

/-- What a table is after some links were opened, and the entries that were returned. -/
structure Reached (opened : List Hyperlink) (entries : List LinkArc) (t : LinkTable) : Prop where
  returned : entries.map (·.link) = opened
  recent : t.recentHyperlinks = entries.reverse.eraseDups.take osc8RecentMax
  links : t.links = opened.reverse.eraseDups.take osc8RecentMax
  allocations : ∀ entry ∈ entries, entry.allocation < t.allocated

variable {opened : List Hyperlink} {entries : List LinkArc} {t : LinkTable}

theorem Reached.nodup (reached : Reached opened entries t) : t.links.Nodup := by
  rw [reached.links]
  exact (nodup_eraseDups _).sublist (List.take_sublist _ _)

theorem Reached.room (reached : Reached opened entries t) : t.recentHyperlinks.length ≤ osc8RecentMax := by
  rw [reached.recent]
  exact List.length_take_le _ _

/-- An entry of the table was returned by an earlier opening of its link. -/
theorem Reached.listed (reached : Reached opened entries t) {arc : LinkArc} (inside : arc ∈ t.recentHyperlinks) : arc ∈ entries := by
  rw [reached.recent] at inside
  simpa using List.mem_of_mem_take inside

theorem Reached.opens (reached : Reached opened entries t) (link : Hyperlink) :
    openLink (entries,t) link = .ok (entries ++ [t.entryOf link],t.after link) := by
  rw [openLink,internHyperlink_eq reached.nodup reached.room]
  rfl

theorem Reached.openLink (reached : Reached opened entries t) (link : Hyperlink) :
    Reached (opened ++ [link]) (entries ++ [t.entryOf link]) (t.after link) := by
  have apart : ∀ arc ∈ t.recentHyperlinks, arc.link = (t.entryOf link).link → arc = t.entryOf link := by
    intro arc inside same
    rw [entryOf_link] at same
    rw [← same,entryOf_of_mem reached.nodup inside]
  constructor
  · rw [List.map_append,reached.returned,List.map_singleton,entryOf_link]
  · change access _ t.recentHyperlinks _ = _
    rw [reached.recent,access_recent]
  · change (access _ t.recentHyperlinks _).map _ = _
    rw [map_access _ apart,entryOf_link]
    change access _ t.links _ = _
    rw [reached.links,access_recent]
  · intro entry inside
    unfold after
    dsimp only
    rcases List.mem_append.mp inside with old | new
    · have before := reached.allocations entry old
      split <;> omega
    · rw [List.mem_singleton.mp new]
      by_cases known : link ∈ t.links
      · obtain ⟨arc,listed,rfl⟩ := List.mem_map.mp known
        rw [if_pos known,entryOf_of_mem reached.nodup listed]
        exact reached.allocations arc (reached.listed listed)
      · rw [if_neg known,entryOf_of_not_mem known]
        exact Nat.lt_succ_self _

theorem openAll (opened : List Hyperlink) :
    ∃ entries t, opened.foldlM LinkTable.openLink ([],{}) = .ok (entries,t) ∧ Reached opened entries t := by
  induction opened using List.reverseRecOn with
  | nil => exact ⟨[],{},rfl,⟨rfl,rfl,rfl,fun _ inside => absurd inside List.not_mem_nil⟩⟩
  | append_singleton opened link ih =>
    obtain ⟨entries,t,ran,reached⟩ := ih
    refine ⟨_,_,?_,reached.openLink link⟩
    rw [List.foldlM_append,ran,ok_bind,List.foldlM_cons,reached.opens]
    rfl

/-- After any links were opened, the table has the most recent of them, and the next one
    is the entry that the last opening of it returned if the table has it. Else it is a new
    entry, for which at most the one used least recently goes. -/
theorem recent_exact (opened : List Hyperlink) :
    ∃ entries t, opened.foldlM LinkTable.openLink ([],{}) = .ok (entries,t) ∧ entries.map (·.link) = opened ∧
      t.links = opened.reverse.eraseDups.take osc8RecentMax ∧ t.links.Nodup ∧
      ∀ link, ∃ entry t', t.internHyperlink link.id link.uri = .ok (entry,t') ∧ entry.link = link ∧
        (link ∈ t.links → entries.reverse.find? (·.link = link) = some entry ∧
          t'.recentHyperlinks = entry :: t.recentHyperlinks.erase entry) ∧
        (link ∉ t.links → entry ∉ entries ∧
          t'.recentHyperlinks = entry :: t.recentHyperlinks.take (osc8RecentMax - 1)) := by
  obtain ⟨entries,t,ran,reached⟩ := openAll opened
  refine ⟨entries,t,ran,reached.returned,reached.links,reached.nodup,fun link => ?_⟩
  refine ⟨_,_,internHyperlink_eq reached.nodup reached.room link,t.entryOf_link link,?_,?_⟩
  · intro known
    obtain ⟨arc,listed,rfl⟩ := List.mem_map.mp known
    rw [after,entryOf_of_mem reached.nodup listed,access_of_mem listed reached.room]
    refine ⟨?_,rfl⟩
    -- the table has the entries returned last
    have found : t.recentHyperlinks.find? (fun other => other.link = arc.link) = some arc := by
      have entry := entryOf_of_mem reached.nodup listed
      unfold entryOf at entry
      cases some : t.recentHyperlinks.find? fun other => other.link = arc.link with
      | none => simpa using List.find?_eq_none.mp some arc listed
      | some other => rw [some] at entry; exact congrArg _ entry
    rw [reached.recent] at found
    rw [← find?_eraseDups]
    exact (List.take_prefix _ _).find?_eq_some found
  · intro unknown
    have entry := entryOf_of_not_mem unknown
    constructor
    · intro inside
      have old := reached.allocations _ inside
      rw [entry] at old
      exact Nat.lt_irrefl _ old
    · rw [after,entry]
      apply access_of_not_mem
      intro listed
      exact unknown (List.mem_map.mpr ⟨_,listed,rfl⟩)

end LinkTable

/-! ## The grid's table -/

/-- The link that an operation opens: the one that is active after it where none was. -/
def Op.opens : Op → Option Hyperlink
  | .osc params bell => ((Grid.new 1 1 0).handleOsc params bell).activeHyperlink
  | _ => none

/-- The link that a step of a run opens. -/
def Step.opens : Step → Option Hyperlink
  | .op o => o.opens
  | .host _ => none

namespace Grid

/-- A list of recent links after an operation. -/
def linked (recent : List Hyperlink) (opened : Option Hyperlink) : List Hyperlink := opened.elim recent (internHyperlink recent)

theorem internHyperlink_access {recent : List Hyperlink} (room : recent.length ≤ osc8RecentMax) (link : Hyperlink) :
    internHyperlink recent link = access osc8RecentMax recent link := by
  unfold internHyperlink
  split_ifs with known full
  · exact (access_of_mem known room).symm
  · change _ = access (7 + 1) recent link
    rw [access_of_not_mem known,List.dropLast_eq_take,full]
    rfl
  · change _ = access (7 + 1) recent link
    rw [access_of_not_mem known,List.take_of_length_le (by unfold osc8RecentMax at room full; omega)]

/-- Steps one after the other leave the most recent of the links they open. -/
theorem foldl_linked (steps : List Step) : steps.foldl (fun recent step => linked recent step.opens) [] =
    (steps.filterMap Step.opens).reverse.eraseDups.take osc8RecentMax := by
  induction steps using List.reverseRecOn with
  | nil => rfl
  | append_singleton steps step ih =>
    rw [List.foldl_append,List.foldl_cons,List.foldl_nil,ih,List.filterMap_append]
    cases opens : step.opens with
    | none => simp [linked,opens]
    | some link =>
      rw [show [step].filterMap Step.opens = [link] by simp [opens],← access_recent]
      exact internHyperlink_access (List.length_take_le _ _) link

variable {P : Row → Prop} {g : Grid}

theorem handleOsc_links (g : Grid) (params : List Bytes) (bell : Bool) :
    (g.handleOsc params bell).recentHyperlinks = linked g.recentHyperlinks (Op.opens (.osc params bell)) := by
  unfold Op.opens handleOsc
  cases params with
  | nil => rfl
  | cons code rest =>
    dsimp only
    split
    case h_9 =>
      unfold oscHyperlink
      dsimp only
      split <;> rfl
    all_goals rfl

section
variable [UnicodeWidth]

/-- What an operation makes of the recent links. -/
theorem exec_links (g : Grid) (op : Op) :
    Ends (fun h : Grid => h.recentHyperlinks = linked g.recentHyperlinks op.opens) (fun _ => True) (g.exec op) := by
  cases walked : op.walk with
  | some walk =>
    have opensNone : op.opens = none := by
      cases op
      all_goals first
        | rfl
        | cases walked
    rw [opensNone]
    exact exec_unwritten (fun _ => rfl) walked g
  | none =>
    cases op
    case osc params bell => exact g.handleOsc_links params bell
    case fullReset => exact rfl
    all_goals first
      | exact exec_unset (fun _ => rfl) rfl g
      | cases walked

end

end Grid

section
variable [UnicodeWidth] [Vte]

namespace DamageGrid

/-- The recent links after a run are those of the table in which the links that its steps
    open were opened. -/
theorem calls_links {rows cols : UInt16} (hasRows : 0 < rows) (hasCols : 0 < cols) (scrollbackLimit : Nat) (run : List Call)
    {d : DamageGrid} (ran : (new rows cols scrollbackLimit).calls run = .ok d) :
    ∃ entries t, (((new rows cols scrollbackLimit).steps run).filterMap Step.opens).foldlM LinkTable.openLink ([],{}) =
      .ok (entries,t) ∧ d.grid.recentHyperlinks = t.links := by
  obtain ⟨entries,t,opened,reached⟩ := LinkTable.openAll (((new rows cols scrollbackLimit).steps run).filterMap Step.opens)
  refine ⟨entries,t,opened,?_⟩
  have shaped := (sound_new (rowOk_law fun _ => True).blank hasRows hasCols scrollbackLimit).grid
  have tame : Tame false ((new rows cols scrollbackLimit).steps run) := stepsFrom_tame _ _ run
  have ready := (shaped.takes_ready (rowOk_law _) (fun none => absurd none Bool.false_ne_true) tame).2
  have same := calls_grid (new rows cols scrollbackLimit) run
  rw [ran] at same
  rw [reached.links,← Grid.foldl_linked]
  refine run_reading (ready.mono fun g step _ _ h taken => ?_) same.symm
  cases step with
  | op op => exact (g.exec_links op).of_ok taken
  | host c =>
    cases taken
    cases c <;> rfl

end DamageGrid

end

end Termpane
