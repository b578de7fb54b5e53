import Termpane.Screenful
import Termpane.Modes
import Termpane.ByteParser

/-!
# Mirrors

The bytes of `state_formatted` and `state_diff`, played on a second terminal: first the modes,
then the contents. Whatever the source shows, and however the bytes are cut, the second one
shows it too.
-/
namespace Termpane

open Lib

/-! ## Writers of modes -/

section
variable [UnicodeWidth]

/-- Played on any grid that is seen as `k` under `s`, the output leaves settings and a canvas that `Q` holds of. -/
def Turns {α : Type} (s : Settings) (x : Out α) (k : Canvas) (Q : Settings → Canvas → Prop) : Prop :=
  ∀ g : Grid, g.Bears s k → terminal.Plays x g fun _ h => ∃ s' k', Q s' k' ∧ h.Bears s' k'

variable {α β : Type} {s s' : Settings} {x : Out α} {k k' : Canvas} {Q : Settings → Canvas → Prop}

theorem turns_pure {a : α} (holds : Q s k) : Turns s (pure a : Out α) k Q := fun _ bears => Device.plays_pure ⟨s,k,holds,bears⟩

theorem Turns.mono {R : Settings → Canvas → Prop} (turns : Turns s x k Q) (imp : ∀ s' k', Q s' k' → R s' k') : Turns s x k R :=
  fun g bears => (turns g bears).mono fun _ _ ⟨s',k',holds,bears'⟩ => ⟨s',k',imp s' k' holds,bears'⟩

theorem Turns.bind {f : α → Out β} {R : Settings → Canvas → Prop} (turns : Turns s x k Q)
    (next : ∀ a s' k', Q s' k' → Turns s' (f a) k' R) : Turns s (x >>= f) k R :=
  fun g bears => (turns g bears).bind fun a h ⟨s',k',holds,bears'⟩ => next a s' k' holds h bears'

/-- A step that is taken or not, before others. -/
theorem Turns.when {c : Prop} [Decidable c] {step : Out Unit} {next : Unit → Out β} {M R : Settings → Canvas → Prop}
    (taken : c → Turns s step k M) (skipped : ¬ c → M s k) (rest : ∀ s' k', M s' k' → Turns s' (next ()) k' R) :
    Turns s (if c then step >>= next else next ()) k R := by
  split
  case isTrue yes => exact (taken yes).bind fun _ s' k' => rest s' k'
  case isFalse no => exact rest s k (skipped no)

/-- The writer of a token that takes every such grid to one seen as `k'` under `s'`. -/
theorem turns_token {out : Bytes} (t : Token) (code : out = encodeAll [t]) (valid : t.WellFormed)
    (played : ∀ g : Grid, g.Bears s k → ∃ h, g.perform t.callback = .ok h ∧ h.settings = s' ∧ h.canvas = k') :
    Turns s (tell out) k fun s₁ k₁ => s₁ = s' ∧ k₁ = k' := by
  intro g bears
  obtain ⟨h,ran,settings,canvas⟩ := played g bears
  have taken : [t].foldlM terminal.exec g = .ok h := (bind_pure (g.perform t.callback)).trans ran
  exact Device.plays_tell [t] code (List.forall_mem_singleton.mpr valid) taken ⟨s',k',⟨rfl,rfl⟩,bears.played taken settings canvas⟩

/-- A private mode, set or reset. -/
def modeToken (mode : Nat) (enabled : Bool) : Token := .csi (some 0x3f) [[mode]] none (if enabled then 'h' else 'l')

omit [UnicodeWidth] in
theorem modeToken_wellFormed {mode : Nat} (fits : mode ≤ u16Max) (enabled : Bool) : (modeToken mode enabled).WellFormed := by
  refine ⟨fun b inside => ?_,by simp,by simpa using fits,by simp,?_⟩
  · cases inside
    decide
  · cases enabled <;> decide

theorem perform_mode {mode : Nat} (fits : mode ≤ u16Max) (enabled : Bool) (g : Grid) :
    g.perform (modeToken mode enabled).callback = .ok (g.setDecMode mode enabled) := by
  have number : (UInt16.ofNat mode).toNat = mode := toNat_ofNat fits
  cases enabled
  · change g.exec (.decMode (UInt16.ofNat mode).toNat false) >>= pure = _
    rw [number]
    rfl
  · change g.exec (.decMode (UInt16.ofNat mode).toNat true) >>= pure = _
    rw [number]
    rfl

theorem turns_mode {out : Bytes} (mode : Nat) (enabled : Bool) (s' : Settings) (k' : Canvas) (fits : mode ≤ u16Max)
    (code : out = ascii "\x1b[?" ++ writeU16 mode ++ ascii (if enabled then "h" else "l"))
    (set : ∀ g : Grid, g.Bears s k → (g.setDecMode mode enabled).settings = s' ∧ (g.setDecMode mode enabled).canvas = k') :
    Turns s (tell out) k fun s₁ k₁ => s₁ = s' ∧ k₁ = k' := by
  refine turns_token (modeToken mode enabled) ?_ (modeToken_wellFormed fits enabled)
    fun g bears => ⟨g.setDecMode mode enabled,perform_mode fits enabled g,set g bears⟩
  rw [code]
  unfold encodeAll modeToken
  cases enabled <;> simp [Token.encode,Token.writeParams] <;> rfl

theorem autowrap_turns (autowrap : Bool) :
    Turns s (writeAutowrap autowrap) k fun s' k' => s' = { s with modeFlags.noAutowrap := !autowrap } ∧ k' = k :=
  turns_mode 7 autowrap _ _ (by decide) (by cases autowrap <;> decide) fun _ ⟨_,settings,canvas⟩ => by
    rw [← settings,← canvas]
    exact ⟨rfl,rfl⟩

theorem hideCursor_turns (hidden : Bool) :
    Turns s (writeHideCursor hidden) k fun s' k' => s' = { s with modeFlags.hideCursor := hidden } ∧ k' = k :=
  turns_mode 25 (!hidden) _ _ (by decide) (by cases hidden <;> decide) fun _ ⟨_,settings,canvas⟩ => by
    rw [← settings,← canvas]
    exact ⟨by cases hidden <;> rfl,rfl⟩

theorem cursorKeys_turns (application : Bool) :
    Turns s (Grid.writeCursorKeys application) k fun s' k' => s' = { s with modeFlags.applicationCursor := application } ∧ k' = k :=
  turns_mode 1 application _ _ (by decide) (by cases application <;> decide) fun _ ⟨_,settings,canvas⟩ => by
    rw [← settings,← canvas]
    exact ⟨rfl,rfl⟩

theorem bracketedPaste_turns (on : Bool) :
    Turns s (Grid.writeBracketedPaste on) k fun s' k' => s' = { s with modeFlags.bracketedPaste := on } ∧ k' = k :=
  turns_mode 2004 on _ _ (by decide) (by cases on <;> decide) fun _ ⟨_,settings,canvas⟩ => by
    rw [← settings,← canvas]
    exact ⟨rfl,rfl⟩

theorem keypad_turns (application : Bool) :
    Turns s (Grid.writeKeypad application) k fun s' k' => s' = { s with modeFlags.applicationKeypad := application } ∧ k' = k := by
  refine turns_token (.esc (if application then 0x3d else 0x3e)) (by cases application <;> rfl) ?_ fun g bears => ?_
  · cases application <;> exact ⟨by decide,by decide,by decide⟩
  · obtain ⟨_,rfl,rfl⟩ := bears
    refine ⟨{ g with modeFlags.applicationKeypad := application },?_,rfl,rfl⟩
    cases application <;> rfl

theorem cursorStyle_turns {style : Nat} (fits : style ≤ u16Max) :
    Turns s (writeCursorStyle style) k fun s' k' => s' = { s with cursorStyle := style } ∧ k' = k := by
  refine turns_token (.csi none [[style]] (some 0x20) 'q') ?_ ⟨by simp,?_,?_,by simp,by decide⟩ fun g bears => ?_
  · simp [Token.encode,Token.writeParams]
    rfl
  · exact fun b inside => by cases inside; decide
  · simpa using fits
  · obtain ⟨_,rfl,rfl⟩ := bears
    refine ⟨{ g with cursorStyle := style },?_,rfl,rfl⟩
    change Except.ok { g with cursorStyle := (UInt16.ofNat style).toNat } >>= pure = _
    rw [toNat_ofNat fits]
    rfl

/-- The mode is told by its number, so one of the same number may come of it. -/
theorem mouseMode_turns (mode prev : MouseProtocolMode) : Turns s (writeMouseMode mode prev) k fun s' k' => k' = k ∧
    ∃ m, s' = { s with mouseMode := m } ∧
      (mouseModeNumber s.mouseMode = mouseModeNumber prev → mouseModeNumber m = mouseModeNumber mode) := by
  have told (number : Nat) (enabled : Bool) (m : MouseProtocolMode) {out : Bytes} (fits : number ≤ u16Max)
      (code : out = ascii "\x1b[?" ++ writeU16 number ++ ascii (if enabled then "h" else "l"))
      (sets : ∀ g : Grid, g.setDecMode number enabled = { g with mouseMode := m })
      (same : mouseModeNumber m = mouseModeNumber mode) :
      Turns s (tell out) k fun s' k' => k' = k ∧ ∃ m, s' = { s with mouseMode := m } ∧
        (mouseModeNumber s.mouseMode = mouseModeNumber prev → mouseModeNumber m = mouseModeNumber mode) := by
    refine (turns_mode _ _ { s with mouseMode := m } k fits code fun g bears => ?_).mono fun s₁ k₁ set =>
      ⟨set.2,m,set.1,fun _ => same⟩
    rw [sets g,← bears.settings,← bears.canvas]
    exact ⟨rfl,rfl⟩
  unfold writeMouseMode writeMouseNumber
  split_ifs with still off
  · exact turns_pure ⟨rfl,s.mouseMode,rfl,fun known => known.trans still.symm⟩
  · cases prev
    case none => exact absurd off still
    case press => exact told _ false .none (by decide) rfl (fun _ => rfl) off.symm
    case pressRelease | buttonMotion => exact told 1002 false .none (by decide) rfl (fun _ => rfl) off.symm
    case anyEvent | anyMotion => exact told 1003 false .none (by decide) rfl (fun _ => rfl) off.symm
  · cases mode
    case none => exact absurd rfl off
    case press => exact told 1000 true .press (by decide) rfl (fun _ => rfl) rfl
    case pressRelease | buttonMotion =>
      exact told 1002 true .buttonMotion (by decide) rfl (fun _ => rfl) rfl
    case anyEvent | anyMotion => exact told 1003 true .anyMotion (by decide) rfl (fun _ => rfl) rfl

theorem mouseEncoding_turns (encoding prev : MouseProtocolEncoding) :
    Turns s (writeMouseEncoding encoding prev) k fun s' k' => k' = k ∧
    ∃ e, s' = { s with mouseEncoding := e } ∧
      (mouseEncodingNumber s.mouseEncoding = mouseEncodingNumber prev → mouseEncodingNumber e = mouseEncodingNumber encoding) := by
  have told (number : Nat) (enabled : Bool) (e : MouseProtocolEncoding) {out : Bytes} (fits : number ≤ u16Max)
      (code : out = ascii "\x1b[?" ++ writeU16 number ++ ascii (if enabled then "h" else "l"))
      (sets : ∀ g : Grid, g.setDecMode number enabled = { g with mouseEncoding := e })
      (same : mouseEncodingNumber e = mouseEncodingNumber encoding) :
      Turns s (tell out) k fun s' k' => k' = k ∧ ∃ e, s' = { s with mouseEncoding := e } ∧
        (mouseEncodingNumber s.mouseEncoding = mouseEncodingNumber prev →
          mouseEncodingNumber e = mouseEncodingNumber encoding) := by
    refine (turns_mode _ _ { s with mouseEncoding := e } k fits code fun g bears => ?_).mono fun s₁ k₁ set =>
      ⟨set.2,e,set.1,fun _ => same⟩
    rw [sets g,← bears.settings,← bears.canvas]
    exact ⟨rfl,rfl⟩
  unfold writeMouseEncoding writeMouseNumber
  split_ifs with still off
  · exact turns_pure ⟨rfl,s.mouseEncoding,rfl,fun known => known.trans still.symm⟩
  · cases prev
    case default => exact absurd off still
    all_goals exact told _ false .default (by decide) rfl (fun _ => rfl) off.symm
  · cases encoding
    case default => exact absurd rfl off
    case utf8 => exact told 1005 true .utf8 (by decide) rfl (fun _ => rfl) rfl
    case sgr => exact told 1006 true .sgr (by decide) rfl (fun _ => rfl) rfl
    case urxvt => exact told 1015 true .urxvt (by decide) rfl (fun _ => rfl) rfl

/-- Another screen is another canvas. -/
theorem screen_turns (alternate : Bool) : Turns s (tell (ascii (if alternate then "\x1b[?1049h" else "\x1b[?1049l"))) k fun s' _ =>
    s' = { s with modeFlags.altScreen := alternate } := by
  intro g bears
  have fits : 1049 ≤ u16Max := by decide
  have taken : [modeToken 1049 alternate].foldlM terminal.exec g = .ok (g.setDecMode 1049 alternate) :=
    (bind_pure (g.perform (modeToken 1049 alternate).callback)).trans (perform_mode fits alternate g)
  have settings : (g.setDecMode 1049 alternate).settings = { s with modeFlags.altScreen := alternate } := by
    rw [← bears.settings]
    cases alternate
    · have restored := Grid.restoreSavedCursor_eq (g.setAltScreen false)
      change (g.setAltScreen false).restoreSavedCursor.settings = _
      rw [restored]
      split <;> rfl
    · rfl
  exact Device.plays_tell [modeToken 1049 alternate] (by cases alternate <;> rfl)
    (List.forall_mem_singleton.mpr (modeToken_wellFormed fits alternate)) taken ⟨_,_,settings,bears.played taken rfl rfl⟩

/-! ## The input modes -/

omit [UnicodeWidth] in
/-- The modes are those that `state_eq` compares. -/
structure Settings.Agrees (s : Settings) (g : Grid) : Prop where
  autowrap : s.modeFlags.noAutowrap = g.modeFlags.noAutowrap
  keypad : s.modeFlags.applicationKeypad = g.modeFlags.applicationKeypad
  cursorKeys : s.modeFlags.applicationCursor = g.modeFlags.applicationCursor
  paste : s.modeFlags.bracketedPaste = g.modeFlags.bracketedPaste
  mouse : mouseModeNumber s.mouseMode = mouseModeNumber g.mouseMode
  encoding : mouseEncodingNumber s.mouseEncoding = mouseEncodingNumber g.mouseEncoding
  screen : s.modeFlags.altScreen = g.modeFlags.altScreen
  hidden : s.modeFlags.hideCursor = g.modeFlags.hideCursor
  style : s.cursorStyle = g.cursorStyle

omit [UnicodeWidth] in
/-- What no mode changes. -/
structure Settings.SameSize (s s' : Settings) : Prop where
  rows : s'.rows = s.rows
  cols : s'.cols = s.cols
  bottom : s'.scrollBottom = s.scrollBottom

variable {g prev : Grid}

theorem inputModeFormatted_turns (style : g.cursorStyle ≤ u16Max) (mouse : mouseModeNumber s.mouseMode = 0)
    (encoding : mouseEncodingNumber s.mouseEncoding = 0) (screen : s.modeFlags.altScreen = false) :
    Turns s g.writeInputModeFormatted k fun s' _ => s'.Agrees g ∧ s.SameSize s' := by
  unfold Grid.writeInputModeFormatted
  refine (autowrap_turns _).bind fun _ _ _ set => ?_
  obtain ⟨rfl,rfl⟩ := set
  refine (keypad_turns _).bind fun _ _ _ set => ?_
  obtain ⟨rfl,rfl⟩ := set
  refine (cursorKeys_turns _).bind fun _ _ _ set => ?_
  obtain ⟨rfl,rfl⟩ := set
  refine (bracketedPaste_turns _).bind fun _ _ _ set => ?_
  obtain ⟨rfl,rfl⟩ := set
  refine (mouseMode_turns _ _).bind fun _ _ _ set => ?_
  obtain ⟨rfl,mode,rfl,sameMode⟩ := set
  refine (mouseEncoding_turns _ _).bind fun _ s₆ _ set => ?_
  obtain ⟨rfl,code,isLast,sameCode⟩ := set
  have stays : s₆.modeFlags.altScreen = false := by
    rw [isLast]
    exact screen
  refine Turns.when (M := fun s' _ => s' = { s₆ with modeFlags.altScreen := g.modeFlags.altScreen })
    (fun alternate => (screen_turns true).mono fun _ _ set => by rw [set,alternate]) (fun primary => ?_) fun _ _ set => ?_
  · rw [Bool.not_eq_true] at primary
    rw [primary,← stays]
  subst set isLast
  refine (hideCursor_turns _).bind fun _ _ _ set => ?_
  obtain ⟨rfl,rfl⟩ := set
  refine (cursorStyle_turns style).mono fun _ _ set => ?_
  obtain ⟨rfl,rfl⟩ := set
  exact ⟨⟨Bool.not_not _,rfl,rfl,rfl,sameMode mouse,sameCode encoding,rfl,rfl,rfl⟩,rfl,rfl,rfl⟩

/-- A mode is written where it differs from what the destination has. -/
theorem Turns.unless {α : Type} {c : Prop} [Decidable c] {step : Out Unit} {next : Unit → Out α} {R : Settings → Canvas → Prop} {t : Settings}
    (taken : Turns s step k fun s' k' => s' = t ∧ k' = k) (skipped : ¬ c → s = t) (rest : Turns t (next ()) k R) :
    Turns s (if c then step >>= next else next ()) k R :=
  Turns.when (fun _ => taken) (fun same => ⟨skipped same,rfl⟩) fun s' k' set => by
    rw [set.1,set.2]
    exact rest

theorem inputModeDiff_turns (style : g.cursorStyle ≤ u16Max) (agrees : s.Agrees prev) :
    Turns s (g.writeInputModeDiff prev) k fun s' k' => s'.Agrees g ∧ s.SameSize s' ∧
      (g.modeFlags.altScreen = prev.modeFlags.altScreen → k' = k) := by
  unfold Grid.writeInputModeDiff
  refine Turns.unless (autowrap_turns _) (fun same => ?_) ?_
  · have known : s.modeFlags.noAutowrap = !g.autowrap := by
      rw [agrees.autowrap,not_not.mp same]
      exact (Bool.not_not _).symm
    rw [← known]
  refine Turns.unless (keypad_turns _) (fun same => ?_) ?_
  · rw [not_not.mp same,← agrees.keypad]
  refine Turns.unless (cursorKeys_turns _) (fun same => ?_) ?_
  · rw [not_not.mp same,← agrees.cursorKeys]
  refine Turns.unless (bracketedPaste_turns _) (fun same => ?_) ?_
  · rw [not_not.mp same,← agrees.paste]
  refine (mouseMode_turns _ _).bind fun _ _ _ set => ?_
  obtain ⟨still,mode,rfl,sameMode⟩ := set
  rw [still]
  refine (mouseEncoding_turns _ _).bind fun _ s₆ _ set => ?_
  obtain ⟨still,code,isLast,sameCode⟩ := set
  rw [still]
  have stays : s₆.modeFlags.altScreen = prev.modeFlags.altScreen := by
    rw [isLast]
    exact agrees.screen
  refine Turns.when (M := fun s' k' => s' = { s₆ with modeFlags.altScreen := g.modeFlags.altScreen } ∧
      (g.modeFlags.altScreen = prev.modeFlags.altScreen → k' = k))
    (fun switches => (screen_turns _).mono fun _ _ set => ⟨set,fun same => absurd same switches⟩) (fun same => ⟨?_,fun _ => rfl⟩)
    fun s₇ k₇ set => ?_
  · rw [not_not.mp same,← stays]
  obtain ⟨isNext,same⟩ := set
  have hidden : s₇.modeFlags.hideCursor = prev.modeFlags.hideCursor := by
    rw [isNext,isLast]
    exact agrees.hidden
  refine Turns.unless (hideCursor_turns _) (fun same => ?_) ?_
  · rw [not_not.mp same,← hidden]
  have last (s' : Settings) (agrees' : ({ s' with cursorStyle := g.cursorStyle } : Settings).Agrees g) (kept : s.SameSize s')
      (stays : s'.cursorStyle = prev.cursorStyle) :
      Turns s' (if g.cursorStyle ≠ prev.cursorStyle then writeCursorStyle g.cursorStyle else pure ()) k₇ fun s' k' =>
        s'.Agrees g ∧ s.SameSize s' ∧ (g.modeFlags.altScreen = prev.modeFlags.altScreen → k' = k) := by
    split_ifs with changed
    · refine (cursorStyle_turns style).mono fun _ _ set => ?_
      obtain ⟨rfl,rfl⟩ := set
      exact ⟨agrees',⟨kept.rows,kept.cols,kept.bottom⟩,same⟩
    · rw [not_not.mp changed,← stays] at agrees'
      exact turns_pure ⟨agrees',kept,same⟩
  refine last _ ?_ ?_ ?_
  all_goals rw [isNext,isLast]
  · exact ⟨Bool.not_not _,rfl,rfl,rfl,sameMode agrees.mouse,sameCode agrees.encoding,rfl,rfl,rfl⟩
  · exact ⟨rfl,rfl,rfl⟩
  · exact agrees.style

/-! ## The contents -/

/-- What a painter leaves is known where its output goes on. -/
theorem Paints.turns {f : α → Out β} {P : α → Canvas → Prop} {R : Settings → Canvas → Prop} (paints : Paints s x k P)
    (next : ∀ a k', k'.Sound s → P a k' → Turns s (f a) k' R) : Turns s (x >>= f) k R :=
  fun g bears => (paints g bears).bind fun a h ⟨k',holds,bears'⟩ => next a k' bears'.sound holds h bears'

omit [UnicodeWidth] in
theorem Settings.SameSize.trans {s'' : Settings} (left : s.SameSize s') (right : s'.SameSize s'') : s.SameSize s'' :=
  ⟨right.rows.trans left.rows,right.cols.trans left.cols,right.bottom.trans left.bottom⟩

/-- Autowrap is on while the contents are painted. -/
theorem autowrapOff_turns (agrees : ({ s with modeFlags.noAutowrap := g.modeFlags.noAutowrap } : Settings).Agrees g)
    (open' : s.modeFlags.noAutowrap = false) (mirrors : k.Mirrors g) :
    Turns s (if g.autowrap = false then writeAutowrap false else pure ()) k fun s' k' =>
      s'.Agrees g ∧ s.SameSize s' ∧ k'.Mirrors g := by
  split_ifs with off
  · have noAutowrap : g.modeFlags.noAutowrap = true := by simpa [Grid.autowrap] using off
    rw [noAutowrap] at agrees
    refine (autowrap_turns false).mono fun _ _ set => ?_
    obtain ⟨rfl,rfl⟩ := set
    exact ⟨agrees,⟨rfl,rfl,rfl⟩,mirrors⟩
  · have noAutowrap : g.modeFlags.noAutowrap = false := by simpa [Grid.autowrap] using off
    rw [noAutowrap,← open'] at agrees
    exact turns_pure ⟨agrees,⟨rfl,rfl,rfl⟩,mirrors⟩

theorem contentsFormatted_turns (narrow : NarrowSpace) (legible : g.Legible) (agrees : s.Agrees g) (fits : s.Fits g)
    (bottom : s.scrollBottom + 1 = s.rows) :
    Turns s g.writeContentsFormatted k fun s' k' => s'.Agrees g ∧ s.SameSize s' ∧ k'.Mirrors g := by
  unfold Grid.writeContentsFormatted
  refine (autowrap_turns _).bind fun _ _ _ set => ?_
  obtain ⟨rfl,rfl⟩ := set
  refine (hideCursor_turns _).bind fun _ s₂ _ set => ?_
  obtain ⟨isOpen,rfl⟩ := set
  have opened : s₂.Open := by rw [isOpen]; exact ⟨rfl,bottom⟩
  have fits₂ : s₂.Fits g := by rw [isOpen]; exact ⟨fits.rows,fits.cols⟩
  refine (fullPaint_paints narrow opened legible fits₂).turns fun _ k' _ mirrors => ?_
  have agrees₂ : ({ s₂ with modeFlags.noAutowrap := g.modeFlags.noAutowrap } : Settings).Agrees g := by
    rw [isOpen]
    exact ⟨rfl,agrees.keypad,agrees.cursorKeys,agrees.paste,agrees.mouse,agrees.encoding,agrees.screen,rfl,agrees.style⟩
  refine (autowrapOff_turns agrees₂ opened.autowrap mirrors).mono fun _ _ done => ⟨done.1,?_,done.2.2⟩
  rw [isOpen] at done
  exact ⟨done.2.1.rows,done.2.1.cols,done.2.1.bottom⟩

/-- The contents of a grid, on a destination that shows an earlier one of its size. -/
theorem contentsDiff_turns (narrow : NarrowSpace) (legible : g.Legible)
    (steady : ∀ i j, Steady (cellAt (g.visibleRow i) j).contents) (prevShaped : prev.Shaped RowOk)
    (sameRows : prev.rows = g.rows) (sameCols : prev.cols = g.cols) (agrees : s.Agrees g) (fits : s.Fits g)
    (bottom : s.scrollBottom + 1 = s.rows) (mirrors : g.modeFlags.altScreen = prev.modeFlags.altScreen → k.Mirrors prev) :
    Turns s (g.writeContentsDiff prev) k fun s' k' => s'.Agrees g ∧ s.SameSize s' ∧ k'.Mirrors g := by
  unfold Grid.writeContentsDiff
  refine (autowrap_turns _).bind fun _ s₁ _ set => ?_
  obtain ⟨isOpen,same⟩ := set
  rw [same]
  have hidden : s₁.modeFlags.hideCursor = g.modeFlags.hideCursor := by rw [isOpen]; exact agrees.hidden
  refine Turns.unless (t := s₁) ((hideCursor_turns _).mono fun _ _ set => ⟨?_,set.2⟩) (fun _ => rfl) ?_
  · rw [set.1,← hidden]
  have opened : s₁.Open := by rw [isOpen]; exact ⟨rfl,bottom⟩
  have fits₁ : s₁.Fits g := by rw [isOpen]; exact ⟨fits.rows,fits.cols⟩
  have agrees₁ : ({ s₁ with modeFlags.noAutowrap := g.modeFlags.noAutowrap } : Settings).Agrees g := by
    rw [isOpen]
    exact ⟨rfl,agrees.keypad,agrees.cursorKeys,agrees.paste,agrees.mouse,agrees.encoding,agrees.screen,agrees.hidden,agrees.style⟩
  have rest (k' : Canvas) (mirrors : k'.Mirrors g) : Turns s₁ (if g.autowrap = false then writeAutowrap false else pure ()) k'
      fun s' k' => s'.Agrees g ∧ s.SameSize s' ∧ k'.Mirrors g := by
    refine (autowrapOff_turns agrees₁ opened.autowrap mirrors).mono fun _ _ done => ⟨done.1,?_,done.2.2⟩
    rw [isOpen] at done
    exact ⟨done.2.1.rows,done.2.1.cols,done.2.1.bottom⟩
  dsimp only
  by_cases redraws : (g.rows,g.cols) ≠ (prev.rows,prev.cols) ∨ g.modeFlags.altScreen ≠ prev.modeFlags.altScreen
  · rw [if_pos redraws]
    exact (fullPaint_paints narrow opened legible fits₁).turns fun _ k' _ mirrors => rest k' mirrors
  · rw [if_neg redraws]
    have screen : g.modeFlags.altScreen = prev.modeFlags.altScreen := not_not.mp (not_or.mp redraws).2
    obtain ⟨pos,pen,shows⟩ := mirrors screen
    refine (rowsDiff_paints narrow opened legible fits₁ steady prevShaped sameRows sameCols pos pen shows).turns
      fun painted k₁ sound drawn => ?_
    exact (cursorAndPen_paints narrow opened legible fits₁ sound drawn.2 drawn.1).turns fun _ k' _ mirrors => rest k' mirrors

/-! ## States -/

namespace Grid

omit [UnicodeWidth] in
/-- The second grid shows what the first one does, and scrolls as a whole. -/
structure Mirrors (g h : Grid) : Prop where
  shaped : h.Shaped RowOk
  rows : h.rows = g.rows
  cols : h.cols = g.cols
  bottom : h.scrollBottom + 1 = h.rows
  modes : h.settings.Agrees g
  canvas : h.canvas.Mirrors g

omit [UnicodeWidth] in
/-- Every continuation on the screen carries its lead's attributes. -/
def Coupled (g : Grid) : Prop :=
  ∀ i, i < g.rows → ∀ j, j < g.cols → (cellAt (g.visibleRow i) j).isWideContinuation = true →
    (cellAt (g.visibleRow i) j).attrs = (cellAt (g.visibleRow i) (j - 1)).attrs

instance (g : Grid) : Decidable g.Coupled := by unfold Coupled; infer_instance

variable {h : Grid}

omit [UnicodeWidth] in
theorem Shaped.cell_eq {P : Row → Prop} (shaped : g.Shaped P) {i j : Nat} (inside : i < g.rows) (bound : j < g.cols) :
    g.cell i j = some (cellAt (g.visibleRow i) j) := by
  obtain ⟨read,width,_⟩ := shaped.visibleRow_at inside
  unfold Grid.cell
  rw [read,Option.bind_some,cellAt_inside (by omega)]
  exact List.getElem?_eq_getElem (by omega)

omit [UnicodeWidth] in
theorem face_eq_mirrored_iff {row : Row} (ok : RowOk row) (j : Nat) : (cellAt row j).face = mirrored row j ↔
    ((cellAt row j).isWideContinuation = true → (cellAt row j).attrs = (cellAt row (j - 1)).attrs) := by
  cases second : (cellAt row j).isWideContinuation with
  | false => simp [mirrored_of_alone second]
  | true =>
    have empty := (ok.cells j).continuation second
    have narrow := ok.continuation_narrow second
    rw [mirrored_of_continuation second]
    generalize cellAt row j = c at *
    obtain ⟨contents,isWide,isWideContinuation,attrs,hyperlink⟩ := c
    simp only at second empty narrow
    subst second empty narrow
    simp [Cell.face,Cell.continuationOf]

omit [UnicodeWidth] in
/-- A mirror is told from its source by the attributes of continuations alone. -/
theorem Mirrors.stateEq_iff (mirrors : g.Mirrors h) (shaped : g.Shaped RowOk) : g.stateEq h = true ↔ g.Coupled := by
  have pos : g.cursorPos = h.cursorPos := mirrors.canvas.pos.symm
  have pen : g.currentAttrs = h.currentAttrs := mirrors.canvas.pen.symm
  have autowrap : g.autowrap = h.autowrap := congrArg not mirrors.modes.autowrap.symm
  have keypad : g.modeFlags.applicationKeypad = h.modeFlags.applicationKeypad := mirrors.modes.keypad.symm
  have cursorKeys : g.modeFlags.applicationCursor = h.modeFlags.applicationCursor := mirrors.modes.cursorKeys.symm
  have paste : g.modeFlags.bracketedPaste = h.modeFlags.bracketedPaste := mirrors.modes.paste.symm
  have mouse : mouseModeNumber g.mouseMode = mouseModeNumber h.mouseMode := mirrors.modes.mouse.symm
  have encoding : mouseEncodingNumber g.mouseEncoding = mouseEncodingNumber h.mouseEncoding := mirrors.modes.encoding.symm
  have screen : g.modeFlags.altScreen = h.modeFlags.altScreen := mirrors.modes.screen.symm
  have hidden : g.modeFlags.hideCursor = h.modeFlags.hideCursor := mirrors.modes.hidden.symm
  have style : g.cursorStyle = h.cursorStyle := mirrors.modes.style.symm
  unfold stateEq
  rw [if_neg (not_not.mpr (Prod.ext mirrors.rows.symm mirrors.cols.symm)),← pos,← pen,← autowrap,← keypad,← cursorKeys,← paste,
    ← mouse,← encoding,← screen,← hidden,← style]
  simp only [beq_self_eq_true,Bool.and_true,List.all_eq_true,List.mem_range]
  refine forall₂_congr fun i inside => forall₂_congr fun j bound => ?_
  have otherInside : i < h.rows := by rw [mirrors.rows]; exact inside
  have otherBound : j < h.cols := by rw [mirrors.cols]; exact bound
  have seen : (cellAt (h.visibleRow i) j).face = mirrored (g.visibleRow i) j := mirrors.canvas.shows i inside j bound
  rw [shaped.cell_eq inside bound,mirrors.shaped.cell_eq otherInside otherBound]
  dsimp only
  rw [shows_iff,seen]
  exact face_eq_mirrored_iff (shaped.visibleRow_ok i) j

/-! ## Streams of states -/

theorem stateFormatted_turns (narrow : NarrowSpace) (legible : g.Legible) (style : g.cursorStyle ≤ u16Max) (fits : s.Fits g)
    (bottom : s.scrollBottom + 1 = s.rows) (mouse : mouseModeNumber s.mouseMode = 0)
    (encoding : mouseEncodingNumber s.mouseEncoding = 0) (screen : s.modeFlags.altScreen = false) :
    Turns s g.writeStateFormatted k fun s' k' => s'.Agrees g ∧ s.SameSize s' ∧ k'.Mirrors g := by
  unfold writeStateFormatted
  refine (inputModeFormatted_turns style mouse encoding screen).bind fun _ s₁ k₁ set => ?_
  obtain ⟨agrees,same⟩ := set
  have fits₁ : s₁.Fits g := ⟨same.rows.trans fits.rows,same.cols.trans fits.cols⟩
  have bottom₁ : s₁.scrollBottom + 1 = s₁.rows := by rw [same.bottom,same.rows]; exact bottom
  exact (contentsFormatted_turns narrow legible agrees fits₁ bottom₁).mono fun _ _ done => ⟨done.1,same.trans done.2.1,done.2.2⟩

theorem stateDiff_turns (narrow : NarrowSpace) (legible : g.Legible)
    (steady : ∀ i j, Steady (cellAt (g.visibleRow i) j).contents) (style : g.cursorStyle ≤ u16Max)
    (prevShaped : prev.Shaped RowOk) (sameRows : prev.rows = g.rows) (sameCols : prev.cols = g.cols) (agrees : s.Agrees prev)
    (fits : s.Fits g) (bottom : s.scrollBottom + 1 = s.rows) (mirrors : k.Mirrors prev) :
    Turns s (g.writeStateDiff prev) k fun s' k' => s'.Agrees g ∧ s.SameSize s' ∧ k'.Mirrors g := by
  unfold writeStateDiff
  refine (inputModeDiff_turns style agrees).bind fun _ s₁ k₁ set => ?_
  obtain ⟨agrees₁,same,still⟩ := set
  have fits₁ : s₁.Fits g := ⟨same.rows.trans fits.rows,same.cols.trans fits.cols⟩
  have bottom₁ : s₁.scrollBottom + 1 = s₁.rows := by rw [same.bottom,same.rows]; exact bottom
  have mirrors₁ (screen : g.modeFlags.altScreen = prev.modeFlags.altScreen) : k₁.Mirrors prev := by
    rw [still screen]
    exact mirrors
  exact (contentsDiff_turns narrow legible steady prevShaped sameRows sameCols agrees₁ fits₁ bottom₁ mirrors₁).mono
    fun _ _ done => ⟨done.1,same.trans done.2.1,done.2.2⟩

/-- The bytes take the first grid to a mirror of the second, as tokens. -/
def Conveys (bytes : Checked Bytes) (start g : Grid) : Prop :=
  ∃ tokens h, bytes = .ok (encodeAll tokens) ∧ (∀ t ∈ tokens, t.WellFormed) ∧ tokens.foldlM terminal.exec start = .ok h ∧ g.Mirrors h

theorem conveys_of_turns {x : Out Unit} (turns : Turns s x k fun s' k' => s'.Agrees g ∧ s.SameSize s' ∧ k'.Mirrors g)
    {start : Grid} (bears : start.Bears s k) (fits : s.Fits g) (bottom : s.scrollBottom + 1 = s.rows) :
    Conveys (Prod.snd <$> x.run) start g := by
  obtain ⟨_,tokens,h,ran,valid,played,s',k',⟨agrees,same,mirrors⟩,shaped,rfl,rfl⟩ := turns start bears
  refine ⟨tokens,h,by rw [ran]; rfl,valid,played,shaped,same.rows.trans fits.rows,same.cols.trans fits.cols,?_,agrees,mirrors⟩
  have ends : h.scrollBottom = s.scrollBottom := same.bottom
  have rows : h.rows = s.rows := same.rows
  rw [ends,rows]
  exact bottom

theorem stateFormatted_conveys (narrow : NarrowSpace) (legible : g.Legible) (style : g.cursorStyle ≤ u16Max) {rows cols : UInt16}
    (sameRows : g.rows = rows.toNat) (sameCols : g.cols = cols.toNat) (scrollbackLimit : Nat) :
    Conveys g.stateFormatted (new rows cols scrollbackLimit) g := by
  have hasRows : 0 < rows := UInt16.lt_iff_toNat_lt.mpr (by rw [← sameRows]; exact Nat.zero_lt_of_lt legible.shaped.cursorRow)
  have hasCols : 0 < cols := UInt16.lt_iff_toNat_lt.mpr (by rw [← sameCols]; exact legible.shaped.hasCols)
  have shaped : (new rows cols scrollbackLimit).Shaped RowOk :=
    shaped_new (rowOk_law fun _ => True).blank hasRows hasCols scrollbackLimit
  have fits : (new rows cols scrollbackLimit).settings.Fits g := ⟨sameRows.symm,sameCols.symm⟩
  have bottom : (new rows cols scrollbackLimit).settings.scrollBottom + 1 = rows.toNat :=
    Nat.sub_add_cancel (UInt16.lt_iff_toNat_lt.mp hasRows)
  exact conveys_of_turns (stateFormatted_turns narrow legible style fits bottom rfl rfl rfl) shaped.bears fits bottom

/-- What a replay relies on of a grid: what its cells hold can be printed again, and the diff
    can tell where a print is wider than what it leaves. -/
structure Repaintable (rows cols : Nat) (g : Grid) : Prop where
  legible : g.Legible
  steady : ∀ i j, Steady (cellAt (g.visibleRow i) j).contents
  style : g.cursorStyle ≤ u16Max
  rows : g.rows = rows
  cols : g.cols = cols

variable {rows cols : Nat}

/-- The changes from one grid to the next, and so on through the grids. -/
def changes (g : Grid) : List Grid → Checked Bytes
  | [] => pure []
  | next :: rest => do
    let diff ← next.stateDiff g
    let more ← next.changes rest
    pure (diff ++ more)

/-- A mirror of the first grid is taken to one of the last. -/
theorem changes_conveys (narrow : NarrowSpace) {start : Grid} {rest : List Grid} (from' : g.Repaintable rows cols)
    (each : ∀ next ∈ rest, next.Repaintable rows cols) (mirrors : g.Mirrors start) :
    Conveys (g.changes rest) start (rest.getLastD g) := by
  induction rest generalizing g start with
  | nil => exact ⟨[],start,rfl,List.forall_mem_nil _,rfl,mirrors⟩
  | cons next rest ih =>
    have replays := each next List.mem_cons_self
    have sameRows : g.rows = next.rows := from'.rows.trans replays.rows.symm
    have sameCols : g.cols = next.cols := from'.cols.trans replays.cols.symm
    have fits : start.settings.Fits next := ⟨mirrors.rows.trans sameRows,mirrors.cols.trans sameCols⟩
    have prevShaped : g.Shaped RowOk := from'.legible.shaped.mono fun _ each => each.ok
    have diff : Conveys (next.stateDiff g) start next :=
      conveys_of_turns (stateDiff_turns narrow replays.legible replays.steady replays.style prevShaped sameRows sameCols mirrors.modes
        fits mirrors.bottom mirrors.canvas) mirrors.shaped.bears fits mirrors.bottom
    obtain ⟨tokens,h,wrote,valid,played,reached⟩ := diff
    obtain ⟨more,last,wrote',valid',played',done⟩ := ih replays (fun g inside => each g (List.mem_cons_of_mem _ inside)) reached
    refine ⟨tokens ++ more,last,?_,List.forall_mem_append.mpr ⟨valid,valid'⟩,?_,?_⟩
    · unfold changes
      rw [wrote,ok_bind,wrote',ok_bind]
      exact congrArg Except.ok List.flatMap_append.symm
    · rw [List.foldlM_append,played,ok_bind,played']
    · rw [List.getLastD_cons]
      exact done

/-- The state of the first grid, then the changes to the others: what a viewer that
    attaches and stays is sent. -/
def stream (g : Grid) (rest : List Grid) : Checked Bytes := do
  let bytes ← g.stateFormatted
  let more ← g.changes rest
  pure (bytes ++ more)

/-- The stream takes a new grid to a mirror of the last one. -/
theorem stream_conveys (narrow : NarrowSpace) {rows cols : UInt16} {rest : List Grid} (from' : g.Repaintable rows.toNat cols.toNat)
    (each : ∀ next ∈ rest, next.Repaintable rows.toNat cols.toNat) (scrollbackLimit : Nat) :
    Conveys (g.stream rest) (new rows cols scrollbackLimit) (rest.getLastD g) := by
  obtain ⟨tokens,h,wrote,valid,played,reached⟩ :=
    stateFormatted_conveys narrow from'.legible from'.style from'.rows from'.cols scrollbackLimit
  obtain ⟨more,last,wrote',valid',played',done⟩ := changes_conveys narrow from' each reached
  refine ⟨tokens ++ more,last,?_,List.forall_mem_append.mpr ⟨valid,valid'⟩,?_,done⟩
  · unfold stream
    rw [wrote,ok_bind,wrote',ok_bind]
    exact congrArg Except.ok List.flatMap_append.symm
  · rw [List.foldlM_append,played,ok_bind,played']

end Grid

namespace DamageGrid
variable [Vte] {rows cols : UInt16} {scrollbackLimit : Nat} {run : List Call} {d : DamageGrid}

theorem fed_mirrors (laws : VteLaws) {g : Grid} {bytes : Checked Bytes}
    (conveys : Grid.Conveys bytes (.new rows cols scrollbackLimit) g) : ∃ out, bytes = .ok out ∧
      ∀ chunks : List Bytes, chunks.flatten = out → ∃ e, (new rows cols scrollbackLimit).processAll chunks = .ok e ∧ g.Mirrors e.grid := by
  obtain ⟨tokens,h,wrote,valid,played,mirrors⟩ := conveys
  refine ⟨_,wrote,fun chunks fed => ?_⟩
  have ran : (Grid.new rows cols scrollbackLimit).performAll (tokens.map Token.callback) = .ok h := by
    unfold Grid.performAll
    rw [List.foldlM_map]
    exact played
  have performed := processAll_grid (new rows cols scrollbackLimit) chunks
  rw [show (new rows cols scrollbackLimit).callbacks chunks = tokens.map Token.callback from parsed_tokens laws valid fed] at performed
  have performed := performed.trans ran
  cases done : (new rows cols scrollbackLimit).processAll chunks with
  | error e => rw [done] at performed; cases performed
  | ok e =>
    rw [done] at performed
    cases performed
    exact ⟨e,rfl,mirrors⟩

theorem calls_legible (laws : VteLaws) (hasRows : 0 < rows) (hasCols : 0 < cols)
    (reached : (new rows cols scrollbackLimit).calls run = .ok d) (few : d.grid.cols < u16Max)
    (sized : ∀ i j, HasWidth (cellAt (d.grid.visibleRow i) j).contents) : d.grid.Legible := by
  have law := filled_law.rowLaw
  have sound := ((sound_new law.blank hasRows hasCols scrollbackLimit).calls law laws.prints run).of_ok reached
  exact ⟨sound.grid,few,sized⟩

/-- A new terminal fed the formatted state of a reachable one of its size, however it is
    cut, mirrors it; `state_eq` tells them apart only by a continuation that lost its
    lead's attributes. -/
theorem state_formatted_replays (laws : VteLaws) (narrow : NarrowSpace) (hasRows : 0 < rows) (hasCols : 0 < cols)
    (reached : (new rows cols scrollbackLimit).calls run = .ok d) (few : d.grid.cols < u16Max)
    (sized : ∀ i j, HasWidth (cellAt (d.grid.visibleRow i) j).contents) (rows' cols' : UInt16)
    (sameRows : rows'.toNat = d.grid.rows) (sameCols : cols'.toNat = d.grid.cols) (limit : Nat) :
    ∃ bytes, d.grid.stateFormatted = .ok bytes ∧
      ∀ chunks : List Bytes, chunks.flatten = bytes → ∃ e, (new rows' cols' limit).processAll chunks = .ok e ∧
        d.grid.Mirrors e.grid ∧ (d.grid.stateEq e.grid = true ↔ d.grid.Coupled) := by
  have legible := calls_legible laws hasRows hasCols reached few sized
  have shaped : d.grid.Shaped RowOk := legible.shaped.mono fun _ each => each.ok
  have style := calls_style hasRows hasCols reached
  obtain ⟨bytes,wrote,fed⟩ := fed_mirrors laws (Grid.stateFormatted_conveys narrow legible style sameRows.symm sameCols.symm limit)
  refine ⟨bytes,wrote,fun chunks whole => ?_⟩
  obtain ⟨e,done,mirrors⟩ := fed chunks whole
  exact ⟨e,done,mirrors,mirrors.stateEq_iff shaped⟩

/-- A state of some run, of this size, that can be painted and told from others. -/
structure Streamed (rows cols : UInt16) (d : DamageGrid) : Prop where
  reached : ∃ rows₀ cols₀ scrollbackLimit run, 0 < rows₀ ∧ 0 < cols₀ ∧ (new rows₀ cols₀ scrollbackLimit).calls run = .ok d
  rows : d.grid.rows = rows.toNat
  cols : d.grid.cols = cols.toNat
  few : d.grid.cols < u16Max
  sized : ∀ i j, HasWidth (cellAt (d.grid.visibleRow i) j).contents
  steady : ∀ i j, Steady (cellAt (d.grid.visibleRow i) j).contents

theorem Streamed.replays (laws : VteLaws) (streamed : d.Streamed rows cols) : d.grid.Repaintable rows.toNat cols.toNat := by
  obtain ⟨_,_,_,_,hasRows,hasCols,reached⟩ := streamed.reached
  exact ⟨calls_legible laws hasRows hasCols reached streamed.few streamed.sized,streamed.steady,calls_style hasRows hasCols reached,
    streamed.rows,streamed.cols⟩

/-- A new terminal fed the formatted state of one grid and the changes through any others
    of its size, however they are cut, mirrors the last of them. -/
theorem state_stream_replays (laws : VteLaws) (narrow : NarrowSpace) {first : DamageGrid} {rest : List DamageGrid}
    (each : ∀ d ∈ first :: rest, d.Streamed rows cols) (limit : Nat) :
    ∃ bytes, first.grid.stream (rest.map (·.grid)) = .ok bytes ∧
      ∀ chunks : List Bytes, chunks.flatten = bytes → ∃ e, (new rows cols limit).processAll chunks = .ok e ∧
        (rest.getLastD first).grid.Mirrors e.grid ∧
          ((rest.getLastD first).grid.stateEq e.grid = true ↔ (rest.getLastD first).grid.Coupled) := by
  have replays (d : DamageGrid) (inside : d ∈ first :: rest) : d.grid.Repaintable rows.toNat cols.toNat :=
    (each d inside).replays laws
  have others : ∀ next ∈ rest.map (·.grid), next.Repaintable rows.toNat cols.toNat := by
    intro next inside
    obtain ⟨d,among,rfl⟩ := List.mem_map.mp inside
    exact replays d (List.mem_cons_of_mem _ among)
  have conveys := Grid.stream_conveys narrow (replays first List.mem_cons_self) others limit
  have last : (rest.map (·.grid)).getLastD first.grid = (rest.getLastD first).grid := by
    cases rest using List.reverseRecOn with
    | nil => rfl
    | append_singleton front d => simp
  rw [last] at conveys
  obtain ⟨bytes,wrote,fed⟩ := fed_mirrors laws conveys
  have among : rest.getLastD first ∈ first :: rest := by
    cases rest using List.reverseRecOn with
    | nil => exact List.mem_singleton_self _
    | append_singleton front d => simp
  have shaped : (rest.getLastD first).grid.Shaped RowOk := (replays _ among).legible.shaped.mono fun _ each => each.ok
  refine ⟨bytes,wrote,fun chunks whole => ?_⟩
  obtain ⟨e,done,mirrors⟩ := fed chunks whole
  exact ⟨e,done,mirrors,mirrors.stateEq_iff shaped⟩

end DamageGrid

end

section
attribute [local instance] byteParser blockWidth

/-- Clusters of one character have nothing to grow through. -/
theorem short_clusters {g : Grid} (short : ∀ row ∈ g.activeGrid.rows, ∀ c ∈ row, c.contents.length ≤ 1) (i j : Nat) :
    HasWidth (cellAt (g.visibleRow i) j).contents ∧ Steady (cellAt (g.visibleRow i) j).contents := by
  have one : (cellAt (g.visibleRow i) j).contents.length ≤ 1 := by
    unfold Grid.visibleRow cellAt
    cases row : g.activeGrid.rows[i]? with
    | none => exact Nat.zero_le _
    | some cells =>
      rw [Option.getD_some]
      cases cell : cells[j]? with
      | none => exact Nat.zero_le _
      | some c => exact short cells (List.mem_of_getElem? row) c (List.mem_of_getElem? cell)
  refine ⟨fun front grown starts => absurd starts.length_le (by omega),fun thin ⟨front,filled,starts,wide⟩ => ?_⟩
  have whole : front = (cellAt (g.visibleRow i) j).contents :=
    starts.eq_of_length (Nat.le_antisymm starts.length_le (Nat.le_trans one (List.length_pos_iff.mpr filled)))
  rw [whole] at wide
  omega

/-- A wide character and a parked cursor are replayed from two pieces. -/
theorem state_formatted_replays_wide : ∃ d, (DamageGrid.new 1 4 0).calls [.process (ascii "ab" ++ [0xe4,0xb8,0xad])] = .ok d ∧
    ∃ bytes, d.grid.stateFormatted = .ok bytes ∧ ∃ e,
      (DamageGrid.new 1 4 7).processAll [bytes.take 3,bytes.drop 3] = .ok e ∧ d.grid.stateEq e.grid = true := by
  have known : ∃ d, (DamageGrid.new 1 4 0).calls [.process (ascii "ab" ++ [0xe4,0xb8,0xad])] = .ok d ∧ d.grid.rows = 1 ∧
      d.grid.cols = 4 ∧ (∀ row ∈ d.grid.activeGrid.rows, ∀ c ∈ row, c.contents.length ≤ 1) ∧ d.grid.Coupled := ⟨_,rfl,by decide +kernel⟩
  obtain ⟨d,reached,rows,cols,short,coupled⟩ := known
  obtain ⟨bytes,wrote,fed⟩ := DamageGrid.state_formatted_replays byteParser_laws (show charWidth ' ' = 1 by decide)
    (show (0 : UInt16) < 1 by decide) (show (0 : UInt16) < 4 by decide) reached (by rw [cols]; decide)
    (fun i j => (short_clusters short i j).1) 1 4 rows.symm cols.symm 7
  obtain ⟨e,done,_,same⟩ := fed [bytes.take 3,bytes.drop 3] (by simp)
  exact ⟨d,reached,bytes,wrote,e,done,same.mpr coupled⟩

theorem streamed_of_calls {run : List Call} {d : DamageGrid} (reached : (DamageGrid.new 1 4 0).calls run = .ok d)
    (known : d.grid.rows = 1 ∧ d.grid.cols = 4 ∧ ∀ row ∈ d.grid.activeGrid.rows, ∀ c ∈ row, c.contents.length ≤ 1) :
    d.Streamed 1 4 :=
  ⟨⟨1,4,0,run,by decide,by decide,reached⟩,known.1,known.2.1,by rw [known.2.1]; decide,
    fun i j => (short_clusters known.2.2 i j).1,fun i j => (short_clusters known.2.2 i j).2⟩

/-- The screen is left for the alternate one and found changed, and its wide character is written over. -/
theorem state_stream_replays_screens : ∃ first second third,
    (DamageGrid.new 1 4 0).calls [.process (ascii "ab" ++ [0xe4,0xb8,0xad])] = .ok first ∧
    (DamageGrid.new 1 4 0).calls [.process (ascii "ab" ++ [0xe4,0xb8,0xad]),.process (ascii "\x1b[?1049hx")] = .ok second ∧
    (DamageGrid.new 1 4 0).calls [.process (ascii "ab" ++ [0xe4,0xb8,0xad]),.process (ascii "\x1b[?1049hx"),
      .process (ascii "\x1b[?1049l\x1b[1;3Hc")] = .ok third ∧
    ∃ bytes, first.grid.stream [second.grid,third.grid] = .ok bytes ∧ ∃ e,
      (DamageGrid.new 1 4 7).processAll [bytes] = .ok e ∧ third.grid.stateEq e.grid = true := by
  have firstKnown : ∃ d, (DamageGrid.new 1 4 0).calls [.process (ascii "ab" ++ [0xe4,0xb8,0xad])] = .ok d ∧
      d.grid.rows = 1 ∧ d.grid.cols = 4 ∧ ∀ row ∈ d.grid.activeGrid.rows, ∀ c ∈ row, c.contents.length ≤ 1 := ⟨_,rfl,by decide +kernel⟩
  have secondKnown : ∃ d, (DamageGrid.new 1 4 0).calls [.process (ascii "ab" ++ [0xe4,0xb8,0xad]),
      .process (ascii "\x1b[?1049hx")] = .ok d ∧
      d.grid.rows = 1 ∧ d.grid.cols = 4 ∧ ∀ row ∈ d.grid.activeGrid.rows, ∀ c ∈ row, c.contents.length ≤ 1 := ⟨_,rfl,by decide +kernel⟩
  have thirdKnown : ∃ d, (DamageGrid.new 1 4 0).calls [.process (ascii "ab" ++ [0xe4,0xb8,0xad]),
      .process (ascii "\x1b[?1049hx"),.process (ascii "\x1b[?1049l\x1b[1;3Hc")] = .ok d ∧
      (d.grid.rows = 1 ∧ d.grid.cols = 4 ∧ ∀ row ∈ d.grid.activeGrid.rows, ∀ c ∈ row, c.contents.length ≤ 1) ∧ d.grid.Coupled :=
    ⟨_,rfl,by decide +kernel⟩
  obtain ⟨first,reached₁,known₁⟩ := firstKnown
  obtain ⟨second,reached₂,known₂⟩ := secondKnown
  obtain ⟨third,reached₃,known₃,coupled⟩ := thirdKnown
  have each : ∀ d ∈ [first,second,third], d.Streamed 1 4 := by
    simp only [List.forall_mem_cons]
    exact ⟨streamed_of_calls reached₁ known₁,streamed_of_calls reached₂ known₂,streamed_of_calls reached₃ known₃,
      List.forall_mem_nil _⟩
  obtain ⟨bytes,wrote,fed⟩ := DamageGrid.state_stream_replays byteParser_laws (show charWidth ' ' = 1 by decide) each 7
  obtain ⟨e,done,_,same⟩ := fed [bytes] (List.append_nil _)
  exact ⟨first,second,third,reached₁,reached₂,reached₃,bytes,wrote,e,done,same.mpr coupled⟩

end

end Termpane
