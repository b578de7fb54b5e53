import Termpane.ByteParser
import Termpane.SavedCursor

/-!
# Texts and links

`handle_osc`. The parser cuts a payload at its semicolons. An event with a text
takes the first field behind the code, except for the clipboard, whose fields are
joined again; a hyperlink takes the third field for its target.
-/
namespace Termpane

open Lib

/-! ## Payloads -/

/-- `PassthroughEvent::encode`. -/
def PassthroughEvent.encode : PassthroughEvent → Option Bytes
  | .bell => some [0x07]
  | .titleChanged title => some (ascii "\x1b]0;" ++ utf8.spell title ++ [0x07])
  | .iconNameChanged name => some (ascii "\x1b]1;" ++ utf8.spell name ++ [0x07])
  | .clipboardWrite payload => some (ascii "\x1b]52;" ++ utf8.spell payload ++ [0x07])
  | .cwdChanged uri => some (ascii "\x1b]7;" ++ utf8.spell uri ++ [0x07])
  | .notification msg => some (ascii "\x1b]9;" ++ utf8.spell msg ++ [0x07])
  | .applicationCursorKeys on => some (if on then ascii "\x1b[?1h" else ascii "\x1b[?1l")
  | .focusEvents on => some (if on then ascii "\x1b[?1004h" else ascii "\x1b[?1004l")
  | .bracketedPaste on => some (if on then ascii "\x1b[?2004h" else ascii "\x1b[?2004l")
  | .unhandledCsi bytes => some bytes
  | .droppedCsi _ | .reply _ | .scrollbackClear => none

/-- The text of an event that has one. -/
def PassthroughEvent.text : PassthroughEvent → Option (List Char)
  | .titleChanged text | .iconNameChanged text | .clipboardWrite text | .cwdChanged text | .notification text => some text
  | _ => none

/-- The codes of OSC strings with a text. -/
inductive TextCode
  | titleAndIcon
  | icon
  | title
  | cwd
  | notification
  | clipboard
  deriving DecidableEq, Repr

namespace TextCode

def number : TextCode → Nat
  | .titleAndIcon => 0
  | .icon => 1
  | .title => 2
  | .cwd => 7
  | .notification => 9
  | .clipboard => 52

/-- The event a text is handed on in. -/
def event : TextCode → List Char → PassthroughEvent
  | .titleAndIcon | .title => .titleChanged
  | .icon => .iconNameChanged
  | .cwd => .cwdChanged
  | .notification => .notification
  | .clipboard => .clipboardWrite

@[simp] theorem event_text (c : TextCode) (text : List Char) : (c.event text).text = some text := by cases c <;> rfl

end TextCode

/-- What an OSC's code is read as. -/
def oscCode (code : Bytes) : Option Nat := (fromUtf8 code).bind Grid.parseU8

theorem fromUtf8_spell (text : List Char) : fromUtf8 (utf8.spell text) = some text := by
  have read := utf8.symbols_spell text utf8.decode_nil
  have left := utf8.rest_spell text utf8.decode_nil
  rw [List.append_nil] at read left
  rw [fromUtf8,left,read]
  rfl

theorem spell_of_fromUtf8 {bytes : Bytes} {text : List Char} (read : fromUtf8 bytes = some text) : utf8.spell text = bytes := by
  unfold fromUtf8 at read
  split_ifs at read with whole
  have split := utf8.spell_symbols_append_rest bytes
  rw [List.isEmpty_iff.mp whole,List.append_nil] at split
  rwa [Option.some.inj read] at split

/-- No character but `;` has its byte. -/
theorem semicolon_alone : utf8.Alone ';' 0x3b := by
  have own : utf8.encode ';' = [0x3b] := by decide
  refine ⟨own,fun c inside => ?_⟩
  have same : utf8.encode c = utf8.encode ';' := (encode_of_ascii_mem inside (by decide)).trans own.symm
  have read := firstScalar_encode c
  rw [same,firstScalar_encode] at read
  exact (Option.some.inj read).symm

theorem parseU8_digits {text : List Char} {n : Nat} (read : Grid.parseU8 text = some n) : ';' ∉ text := by
  intro inside
  unfold Grid.parseU8 at read
  dsimp only at read
  split_ifs at read with bad small
  apply bad
  right
  split
  case h_1 rest =>
    rcases List.mem_cons.mp inside with first | later
    · cases first
    · exact List.any_eq_true.mpr ⟨';',later,rfl⟩
  case h_2 => exact List.any_eq_true.mpr ⟨';',inside,rfl⟩

/-- A code has no semicolon. -/
theorem oscCode_whole {code : Bytes} {n : Nat} (read : oscCode code = some n) : 0x3b ∉ code := by
  obtain ⟨text,decoded,parsed⟩ := Option.bind_eq_some_iff.mp read
  rw [← spell_of_fromUtf8 decoded]
  exact mt semicolon_alone.mem_spell_iff.mp (parseU8_digits parsed)

/-- The fields behind a code. -/
theorem oscFields_code {code : Bytes} {n : Nat} (read : oscCode code = some n) (rest : Bytes) :
    oscFields (code ++ 0x3b :: rest) = code :: fields 0x3b 14 rest :=
  fields_append (oscCode_whole read) 14 rest

/-! ## Texts -/

/-- The text up to its first `;`. -/
def firstField (text : List Char) : List Char := text.takeWhile (· ≠ ';')

/-- What of a text its event has. -/
def TextCode.kept (c : TextCode) (text : List Char) : List Char :=
  match c with
  | .clipboard => text
  | _ => firstField text

section
variable {g : Grid} {c : TextCode} {code : Bytes}

/-- The event of a text. -/
theorem handleOsc_text (read : oscCode code = some c.number) (text : List Char) (bell : Bool) :
    g.handleOsc (oscFields (code ++ 0x3b :: utf8.spell text)) bell = g.pushEvent (c.event (c.kept text)) := by
  obtain ⟨more,split⟩ := fields_first ';' 13 text
  have whole := intercalate_fields ';' 14 text
  have texts : ((fields ';' 14 text).map utf8.spell).filterMap fromUtf8 = fields ';' 14 text := by
    rw [List.filterMap_map,show fromUtf8 ∘ utf8.spell = some from funext fromUtf8_spell,List.filterMap_some]
  rw [oscFields_code read,semicolon_alone.fields_spell]
  unfold oscCode at read
  rw [split] at whole texts ⊢
  rw [List.map_cons] at texts ⊢
  unfold Grid.handleOsc
  cases c <;> simp only [read,TextCode.number,List.getElem?_cons_succ,List.getElem?_cons_zero,Option.bind_some,fromUtf8_spell,
    texts,whole] <;> rfl

end

namespace TextCode

/-- The code an event is encoded with: every title is one of the window and its icon. -/
def encoded : TextCode → TextCode
  | .title => .titleAndIcon
  | c => c

def spelled : TextCode → Bytes
  | .titleAndIcon => ascii "0"
  | .icon => ascii "1"
  | .title => ascii "2"
  | .cwd => ascii "7"
  | .notification => ascii "9"
  | .clipboard => ascii "52"

variable (c : TextCode)

theorem oscCode_spelled : oscCode c.spelled = some c.number := by cases c <;> rfl

theorem spelled_plain : ∀ b ∈ c.spelled, 0x20 ≤ b := by cases c <;> simp [spelled,ascii]

theorem event_encoded : c.encoded.event = c.event := by cases c <;> rfl

theorem encode_event (text : List Char) : (c.event text).encode =
    some (0x1b :: (0x5d :: (c.encoded.spelled ++ 0x3b :: utf8.spell text) ++ [0x07])) := by cases c <;> rfl

/-- Of a text without a semicolon everything is kept, and of one for the clipboard. -/
theorem kept_eq_iff {text : List Char} : c.kept text = text ↔ c = .clipboard ∨ ';' ∉ text := by
  by_cases clipboard : c = .clipboard
  · subst clipboard
    exact iff_of_true rfl (.inl rfl)
  · have cut : c.kept text = firstField text := by
      cases c
      case clipboard => exact absurd rfl clipboard
      all_goals rfl
    rw [cut,firstField,takeWhile_eq_iff,or_iff_right clipboard]

end TextCode

section
variable [UnicodeWidth] [Vte]

namespace DamageGrid

variable {Ground : Vte.State → Prop} {d : DamageGrid}

/-- Neither inside a sequence nor inside a character: what `mid_sequence` denies. -/
def InGround (Ground : Vte.State → Prop) (d : DamageGrid) : Prop := Ground d.parser ∧ d.pendingUtf8 = []

/-- What a call with one sequence does to a grid in ground state. -/
theorem InGround.process_grid (seqs : VteSequences Ground) (ground : d.InGround Ground) (front : Bytes) {last : UInt8}
    (ascii : isAscii last = true) : (d.process (0x1b :: (front ++ [last]))).map (·.grid) =
      d.grid.performAll (Vte.advance Vte.start (0x1b :: (front ++ [last]))).2 := by
  obtain ⟨slice,split,cut⟩ := nextSlice_eq (List.cons_ne_nil 0x1b (front ++ [last])) []
  have whole : held ([] ++ 0x1b :: (front ++ [last])) = [] := held_of_ascii (0x1b :: front) ascii
  rw [whole,List.append_nil,List.nil_append] at split
  rw [whole,split,if_neg (List.cons_ne_nil _ _)] at cut
  rw [process_eq,ground.2,cut]
  have run := foldlM_advanceParser_grid [0x1b :: (front ++ [last])] d
  rw [parsed,parsed,List.append_nil,seqs.begins d.parser _ ground.1] at run
  rw [← run,Option.toList_some]
  cases [0x1b :: (front ++ [last])].foldlM advanceParser d <;> rfl

end DamageGrid

namespace Grid

variable {Ground : Vte.State → Prop} {g : Grid} {c : TextCode} {code : Bytes}

/-- An OSC emits one event, which has the whole text, and a grid in ground state that
    is sent what the event is encoded as emits it again. -/
def CarriesText (Ground : Vte.State → Prop) (g : Grid) (code : Bytes) (text : List Char) (bell : Bool) : Prop :=
  ∃ event bytes, g.perform (.oscDispatch (oscFields (code ++ 0x3b :: utf8.spell text)) bell) = .ok (g.pushEvent event) ∧
    event.text = some text ∧ event.encode = some bytes ∧
    ∀ d : DamageGrid, d.InGround Ground → ∃ d', d.process bytes = .ok d' ∧ d'.grid = d.grid.pushEvent event

omit [UnicodeWidth] [Vte] in
theorem pushEvent_inj {e e' : PassthroughEvent} (same : g.pushEvent e = g.pushEvent e') : e = e' := by
  have events : g.passthrough ++ [e] = g.passthrough ++ [e'] := congrArg Grid.passthrough same
  simpa using events

omit [Vte] in
theorem perform_osc (g : Grid) (fields : List Bytes) (bell : Bool) :
    g.perform (.oscDispatch fields bell) = .ok (g.handleOsc fields bell) := rfl

/-- What an event with a text is encoded as is read as that event, if all of the
    text is kept. -/
theorem event_again (seqs : VteSequences Ground) (osc : VteOsc) {text : List Char} (plain : ∀ b ∈ utf8.spell text, 0x20 ≤ b)
    (kept : c.kept text = text) {d : DamageGrid} (ground : d.InGround Ground) :
    ∃ d', d.process (0x1b :: (0x5d :: (c.encoded.spelled ++ 0x3b :: utf8.spell text) ++ [0x07])) = .ok d' ∧
      d'.grid = d.grid.pushEvent (c.event text) := by
  have payload : ∀ b ∈ c.encoded.spelled ++ 0x3b :: utf8.spell text, 0x20 ≤ b := by
    intro b inside
    rcases List.mem_append.mp inside with spelled | rest
    · exact c.encoded.spelled_plain b spelled
    · rcases List.mem_cons.mp rest with rfl | rest
      · decide
      · exact plain b rest
  have kept' : c.encoded.kept text = text := by
    rw [TextCode.kept_eq_iff] at kept ⊢
    exact kept.imp_left fun clipboard => by rw [clipboard]; rfl
  have performed := ground.process_grid seqs (0x5d :: (c.encoded.spelled ++ 0x3b :: utf8.spell text)) (show isAscii 0x07 = true from rfl)
  have dispatched : (Vte.advance Vte.start (0x1b :: (0x5d :: (c.encoded.spelled ++ 0x3b :: utf8.spell text) ++ [0x07]))).2 =
      [.oscDispatch (oscFields (c.encoded.spelled ++ 0x3b :: utf8.spell text)) true] := osc.dispatches _ payload
  have event : d.grid.performAll [.oscDispatch (oscFields (c.encoded.spelled ++ 0x3b :: utf8.spell text)) true] =
      .ok (d.grid.pushEvent (c.event text)) := by
    rw [performAll,List.foldlM_cons,perform_osc,handleOsc_text c.encoded.oscCode_spelled,kept',c.event_encoded]
    rfl
  rw [dispatched,event] at performed
  cases done : d.process (0x1b :: (0x5d :: (c.encoded.spelled ++ 0x3b :: utf8.spell text) ++ [0x07])) with
  | error e =>
    rw [done] at performed
    cases performed
  | ok d' =>
    rw [done] at performed
    exact ⟨d',rfl,Except.ok.inj performed⟩

/-- An OSC carries its text exactly if it is one for the clipboard or the text has
    no semicolon. -/
theorem carries_text_iff (seqs : VteSequences Ground) (osc : VteOsc) (g : Grid) (read : oscCode code = some c.number)
    {text : List Char} (plain : ∀ b ∈ utf8.spell text, 0x20 ≤ b) (bell : Bool) :
    g.CarriesText Ground code text bell ↔ c = .clipboard ∨ ';' ∉ text := by
  have emitted := (g.perform_osc _ bell).trans (congrArg Except.ok (handleOsc_text read text bell))
  rw [← c.kept_eq_iff]
  constructor
  · rintro ⟨event,bytes,done,same,_⟩
    rw [emitted] at done
    rw [← pushEvent_inj (Except.ok.inj done),TextCode.event_text] at same
    exact Option.some.inj same
  · intro kept
    rw [kept] at emitted
    exact ⟨_,_,emitted,c.event_text text,c.encode_event text,fun d ground => event_again seqs osc plain kept ground⟩

end Grid

end

section
attribute [local instance] byteParser blockWidth

theorem carries_text_cwd : (Grid.new 1 2 0).CarriesText (fun p : ByteParser => p = {}) (ascii "7") ['/','a'] true :=
  (Grid.carries_text_iff byteParser_sequences byteParser_osc _ (c := .cwd) rfl (List.forall_iff_forall_mem.mp (by decide)) true).mpr (.inr (by decide))

/-- `OSC 0 ; a ; b BEL`: the title is `a`. -/
theorem title_cut : (Grid.new 1 2 0).perform (.oscDispatch (oscFields (ascii "0;a;b")) true) =
      .ok ((Grid.new 1 2 0).pushEvent (.titleChanged ['a'])) ∧
    ¬ (Grid.new 1 2 0).CarriesText (fun p : ByteParser => p = {}) (ascii "0") ['a',';','b'] true := by
  have cut : (Grid.new 1 2 0).perform (.oscDispatch (oscFields (ascii "0;a;b")) true) =
    .ok ((Grid.new 1 2 0).pushEvent (.titleChanged ['a'])) := rfl
  refine ⟨cut,?_⟩
  rintro ⟨event,bytes,done,same,_⟩
  rw [← Grid.pushEvent_inj (Except.ok.inj (cut.symm.trans done))] at same
  exact absurd same (by decide)

end

/-! ## Links -/

/-- The parameters of a hyperlink are taken: UTF-8 with an id that is short enough. -/
def ParamsTaken (params : Bytes) : Prop :=
  ∃ text, fromUtf8 params = some text ∧ utf8Len (Grid.trimStartId text) ≤ osc8IdMax

/-- A target is taken: some UTF-8 that is short enough. -/
def UriTaken (uri : Bytes) : Prop := uri ≠ [] ∧ uri.length ≤ osc8UriMax ∧ ∃ text, fromUtf8 uri = some text

namespace Grid

section
variable {g : Grid} {code params field : Bytes} {more : List Bytes}

/-- The id and the target as the fields give them. -/
def idOf (params : Bytes) : Option (List Char) :=
  ((fromUtf8 params).map trimStartId).filter fun id => utf8Len id ≤ osc8IdMax

def uriOf (field : Bytes) : Option (List Char) :=
  (((some field).filter fun b => b.length ≤ osc8UriMax).bind fromUtf8).filter fun uri => !uri.isEmpty

theorem idOf_some : (∃ id, idOf params = some id) ↔ ParamsTaken params := by
  unfold idOf ParamsTaken
  constructor
  · rintro ⟨id,taken⟩
    obtain ⟨mapped,short⟩ := Option.filter_eq_some_iff.mp taken
    obtain ⟨text,read,rfl⟩ := Option.map_eq_some_iff.mp mapped
    exact ⟨text,read,of_decide_eq_true short⟩
  · rintro ⟨text,read,short⟩
    exact ⟨trimStartId text,Option.filter_eq_some_iff.mpr ⟨by rw [read]; rfl,decide_eq_true short⟩⟩

theorem uriOf_some {uri : List Char} (taken : uriOf field = some uri) : UriTaken field ∧ utf8.spell uri = field := by
  obtain ⟨decoded,some⟩ := Option.filter_eq_some_iff.mp taken
  obtain ⟨whole,fits,read⟩ := Option.bind_eq_some_iff.mp decoded
  obtain ⟨same,short⟩ := Option.filter_eq_some_iff.mp fits
  cases same
  have spelled := spell_of_fromUtf8 read
  refine ⟨⟨?_,of_decide_eq_true short,uri,read⟩,spelled⟩
  rintro rfl
  rw [show fromUtf8 [] = Option.some [] from rfl] at read
  cases read
  cases some

theorem uriOf_taken (target : UriTaken field) : ∃ uri, uriOf field = some uri := by
  obtain ⟨nonempty,short,uri,read⟩ := target
  refine ⟨uri,Option.filter_eq_some_iff.mpr ⟨?_,?_⟩⟩
  · rw [Option.filter_some,if_pos (decide_eq_true short)]
    exact read
  · cases uri with
    | nil => exact absurd (spell_of_fromUtf8 read).symm nonempty
    | cons => rfl

theorem oscHyperlink_active : (g.oscHyperlink (code :: params :: field :: more)).activeHyperlink =
    (idOf params).bind fun id => (uriOf field).map fun uri => ⟨id,uri⟩ := by
  have takenId : ((((code :: params :: field :: more)[1]?.bind fromUtf8).map trimStartId).filter fun id =>
      utf8Len id ≤ osc8IdMax) = idOf params := rfl
  have takenUri : ((((code :: params :: field :: more)[2]?.filter fun b => b.length ≤ osc8UriMax).bind fromUtf8).filter fun uri =>
      !uri.isEmpty) = uriOf field := rfl
  unfold oscHyperlink
  dsimp only
  rw [takenId,takenUri]
  cases idOf params with
  | none => rfl
  | some id => cases uriOf field <;> rfl

/-- The link of an OSC 8, if it opens one, has its third field for the target. -/
theorem oscHyperlink_link {link : Hyperlink} :
    (g.oscHyperlink (code :: params :: field :: more)).activeHyperlink = some link → utf8.spell link.uri = field := by
  rw [oscHyperlink_active]
  intro opened
  obtain ⟨id,_,opened⟩ := Option.bind_eq_some_iff.mp opened
  obtain ⟨uri,taken,rfl⟩ := Option.map_eq_some_iff.mp opened
  exact (uriOf_some taken).2

/-- It opens one exactly if it takes the parameters and that field. -/
theorem oscHyperlink_opens : (∃ link, (g.oscHyperlink (code :: params :: field :: more)).activeHyperlink = some link) ↔
    ParamsTaken params ∧ UriTaken field := by
  rw [oscHyperlink_active,← idOf_some]
  constructor
  · rintro ⟨link,opened⟩
    obtain ⟨id,known,opened⟩ := Option.bind_eq_some_iff.mp opened
    obtain ⟨uri,taken,rfl⟩ := Option.map_eq_some_iff.mp opened
    exact ⟨⟨id,known⟩,(uriOf_some taken).1⟩
  · rintro ⟨⟨id,known⟩,target⟩
    obtain ⟨uri,taken⟩ := uriOf_taken target
    exact ⟨⟨id,uri⟩,by rw [known,taken]; rfl⟩

end

/-- The fields of a hyperlink. -/
theorem handleOsc_link (g : Grid) {code : Bytes} (read : oscCode code = some 8) {params : Bytes} (plain : 0x3b ∉ params)
    (uri : Bytes) (bell : Bool) : ∃ more, g.handleOsc (oscFields (code ++ 0x3b :: (params ++ 0x3b :: uri))) bell =
      g.oscHyperlink (code :: params :: uri.takeWhile (· ≠ 0x3b) :: more) := by
  obtain ⟨more,split⟩ := fields_first 0x3b 12 uri
  refine ⟨more,?_⟩
  rw [oscFields_code read,fields_append plain,split]
  unfold oscCode at read
  unfold handleOsc
  simp only [read]

section
variable [UnicodeWidth]

/-- The link of what is printed next is the active one. -/
def PrintsLink (g : Grid) : Prop :=
  ∀ ch h, g.joinCol ch = none → charWidth ch ≠ 0 → ¬ g.TooWide ch → g.exec (.print ch) = .ok h →
    ∃ w : Grid, g.touched.deferredWrap = .ok w ∧ (h.cell w.cursorRow w.baseCol).map Cell.hyperlink = some g.activeHyperlink

/-- The active link, if there is one, has exactly this target. -/
def LinksExactly (g : Grid) (uri : Bytes) : Prop := ∀ link, g.activeHyperlink = some link → utf8.spell link.uri = uri

theorem Shaped.prints_link {P : Row → Prop} {g : Grid} (shaped : g.Shaped P) : g.PrintsLink := by
  intro ch h alone wide room done
  obtain ⟨w,wrapped,written⟩ := shaped.print_at alone wide room done
  exact ⟨w,wrapped,by rw [written]; rfl⟩

end

end Grid

section
variable [UnicodeWidth] [Vte]

namespace DamageGrid

/-- After an OSC 8 in any reachable state the link of what is printed is exactly the
    one sent or none, if and only if the target has no semicolon, or what stands before
    its first one is refused, or the parameters are. -/
theorem links_exactly_iff {rows cols : UInt16} (hasRows : 0 < rows) (hasCols : 0 < cols) {scrollbackLimit : Nat}
    {run : List Call} {g : Grid} (visited : (new rows cols scrollbackLimit).Visits run g) {code : Bytes}
    (read : oscCode code = some 8) {params : Bytes} (plain : 0x3b ∉ params) (uri : Bytes) (bell : Bool) :
    ∃ h, g.perform (.oscDispatch (oscFields (code ++ 0x3b :: (params ++ 0x3b :: uri))) bell) = .ok h ∧ h.PrintsLink ∧
      (h.LinksExactly uri ↔ 0x3b ∉ uri ∨ ¬ UriTaken (uri.takeWhile (· ≠ 0x3b)) ∨ ¬ ParamsTaken params) := by
  obtain ⟨more,linked⟩ := g.handleOsc_link read plain uri bell
  have shaped := (visited.shaped hasRows hasCols).handleOsc
    (oscFields (code ++ 0x3b :: (params ++ 0x3b :: uri))) bell
  refine ⟨_,g.perform_osc _ bell,shaped.prints_link,?_⟩
  rw [linked,Grid.LinksExactly]
  constructor
  · intro exact
    by_contra cut
    rw [not_or,not_or,not_not,not_not,not_not] at cut
    obtain ⟨link,opened⟩ := Grid.oscHyperlink_opens.mpr ⟨cut.2.2,cut.2.1⟩
    have target := (Grid.oscHyperlink_link opened).symm.trans (exact link opened)
    exact takeWhile_eq_iff.mp target cut.1
  · intro condition link opened
    have taken := Grid.oscHyperlink_opens.mp ⟨link,opened⟩
    rcases condition with whole | refused | refused
    · rw [Grid.oscHyperlink_link opened,takeWhile_eq_iff.mpr whole]
    · exact absurd taken.2 refused
    · exact absurd taken.1 refused

end DamageGrid

end

section
attribute [local instance] byteParser blockWidth

theorem links_exactly_plain : ∃ g h, (DamageGrid.new 1 2 0).Visits [.process [0x41]] g ∧
    g.perform (.oscDispatch (oscFields (ascii "8;;a:b")) true) = .ok h ∧ h.LinksExactly (ascii "a:b") := by
  have visited : (DamageGrid.new 1 2 0).Visits [.process [0x41]] _ := ⟨[.op (.print 'A')],[],rfl,rfl⟩
  obtain ⟨h,done,_,exactly⟩ := DamageGrid.links_exactly_iff (show (0 : UInt16) < 1 by decide) (show (0 : UInt16) < 2 by decide)
    visited (show oscCode (ascii "8") = some 8 from rfl) (show 0x3b ∉ ([] : Bytes) by decide) (ascii "a:b") true
  exact ⟨_,h,visited,done,exactly.mpr (.inl (by decide))⟩

/-- `OSC 8 ; ; a ; b BEL` links to `a`. -/
theorem link_cut : ∃ h, (Grid.new 1 2 0).perform (.oscDispatch (oscFields (ascii "8;;a;b")) true) = .ok h ∧
    h.activeHyperlink = some ⟨[],['a']⟩ ∧ ¬ h.LinksExactly (ascii "a;b") := by
  refine ⟨_,rfl,rfl,fun exactly => ?_⟩
  have same := exactly _ rfl
  revert same
  decide

end

end Termpane
