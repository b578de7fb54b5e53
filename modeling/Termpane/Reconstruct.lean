import Termpane.ByteParser
import Termpane.Steps

/-!
# Reconstructed sequences

`reconstruct_csi` of `parse.rs`: the bytes of a CSI for the log of dropped
sequences and for the ones forwarded. It writes every byte the parser collected in
front of the parameters; a parser takes only a private marker there.
-/
namespace Termpane

/-! ## Numbers -/

theorem digit_byte (d : Nat) (digit : d < 10) : UInt8.ofNat (Nat.digitChar d).toNat = UInt8.ofNat (0x30 + d) := by
  have each : ∀ d, d < 10 → UInt8.ofNat (Nat.digitChar d).toNat = UInt8.ofNat (0x30 + d) := by decide
  exact each d digit

/-- The loop that writes a parameter writes its decimal. -/
theorem writeU16Loop_eq : ∀ i n out, 0 < i → n < 10 ^ i → writeU16Loop i n out = decimal n ++ out := by
  intro i
  induction i with
  | zero => intro n out positive; omega
  | succ i ih =>
    intro n out _ bound
    have digit := digit_byte (n % 10) (Nat.mod_lt _ (by omega))
    rw [writeU16Loop,decimal,Nat.toDigits_eq_if (by omega)]
    split_ifs with last small small
    · have same : n % 10 = n := Nat.mod_eq_of_lt small
      rw [same] at digit
      rw [List.map_singleton,digit,same,List.singleton_append]
    · omega
    · omega
    · have power : 10 ^ (i + 1) = 10 * 10 ^ i := by rw [Nat.pow_succ,Nat.mul_comm]
      have more : 0 < i := by
        rcases Nat.eq_zero_or_pos i with zero | positive
        · rw [zero] at bound; omega
        · exact positive
      rw [ih (n / 10) _ more (by omega),List.map_append,List.map_singleton,digit,List.append_assoc]
      rfl

theorem decimal_u16 (n : UInt16) : decimal n.toNat = writeU16 n.toNat := by
  have bound := n.toNat_lt
  rw [writeU16,writeU16Loop_eq 5 n.toNat [] (by omega) (by omega),List.append_nil]

theorem decimal_digits (n : Nat) : decimal n ≠ [] ∧ ∀ b ∈ decimal n, 0x30 ≤ b ∧ b ≤ 0x3f := by
  constructor
  · simp [decimal]
  · intro b inside
    obtain ⟨ch,written,rfl⟩ := List.mem_map.mp inside
    have digit := Nat.isDigit_of_mem_toDigits (by decide) (by decide) written
    obtain ⟨low,high⟩ := Char.isDigit_iff_toNat.mp digit
    simp only [UInt8.le_iff_toNat_le,UInt8.toNat_ofNat',UInt8.reduceToNat,Char.reduceToNat] at *
    omega

theorem forall_intercalate {α : Type} {P : α → Prop} {separator : List α} (between : ∀ a ∈ separator, P a) :
    ∀ {words : List (List α)}, (∀ word ∈ words, ∀ a ∈ word, P a) → ∀ a ∈ List.intercalate separator words, P a := by
  intro words
  induction words with
  | nil => simp
  | cons word words ih =>
    intro each a inside
    cases words with
    | nil => exact each word (by simp) a (by simpa using inside)
    | cons next words =>
      rw [List.intercalate_cons_cons,List.append_assoc,List.mem_append,List.mem_append] at inside
      rcases inside with first | separates | later
      · exact each word (by simp) a first
      · exact between a separates
      · exact ih (fun word inside => each word (List.mem_cons_of_mem _ inside)) a later

theorem intercalate_ne_nil {α : Type} {separator : List α} {words : List (List α)} (some : words ≠ [])
    (each : ∀ word ∈ words, word ≠ []) : List.intercalate separator words ≠ [] := by
  cases words with
  | nil => exact absurd rfl some
  | cons word words =>
    have first := each word (by simp)
    cases words with
    | nil => simpa using first
    | cons next words =>
      rw [List.intercalate_cons_cons]
      simp [first]

/-! ## Sequences -/

/-- A CSI the parser can dispatch. There is a parameter in every one. -/
structure CsiSequence where
  marker : Option UInt8
  params : List (List UInt16)
  intermediates : Bytes
  final : UInt8
  isMarker : ∀ b ∈ marker, 0x3c ≤ b ∧ b ≤ 0x3f
  hasParam : params ≠ []
  hasValue : ∀ sub ∈ params, sub ≠ []
  fits : (params.map List.length).sum ≤ 32
  areIntermediates : ∀ b ∈ intermediates, 0x20 ≤ b ∧ b ≤ 0x2f
  few : intermediates.length ≤ 2
  isFinal : 0x40 ≤ final ∧ final ≤ 0x7e

namespace CsiSequence

variable (c : CsiSequence)

/-- The callback of its dispatch. -/
def callback (ignore : Bool) : Callback :=
  .csiDispatch c.params (c.marker.toList ++ c.intermediates) ignore (Char.ofNat c.final.toNat)

/-- What `reconstruct_csi` makes of the arguments of its dispatch. -/
def reconstructed : Bytes :=
  reconstructCsi (c.params.map (·.map UInt16.toNat)) (c.marker.toList ++ c.intermediates) c.final

theorem reconstructed_eq : c.reconstructed = [0x1b,0x5b] ++ c.marker.toList ++ c.intermediates ++
    Token.writeParams (c.params.map (·.map UInt16.toNat)) ++ [c.final] := by
  have numbers (sub : List UInt16) : (sub.map UInt16.toNat).map decimal = (sub.map UInt16.toNat).map writeU16 := by
    rw [List.map_map,List.map_map]
    exact List.map_congr_left fun n _ => decimal_u16 n
  have groups : (c.params.map (·.map UInt16.toNat)).map (fun sub => List.intercalate [0x3a] (sub.map decimal)) =
      (c.params.map (·.map UInt16.toNat)).map fun sub => List.intercalate [0x3a] (sub.map writeU16) := by
    rw [List.map_map,List.map_map]
    exact List.map_congr_left fun sub _ => congrArg (List.intercalate [0x3a]) (numbers sub)
  change ascii "\x1b[" ++ (c.marker.toList ++ c.intermediates) ++ List.intercalate (ascii ";")
    ((c.params.map (·.map UInt16.toNat)).map fun sub => List.intercalate (ascii ":") (sub.map decimal)) ++ [c.final] = _
  rw [show ascii "\x1b[" = [0x1b,0x5b] from rfl,show ascii ";" = [0x3b] from rfl,show ascii ":" = [0x3a] from rfl,groups,
    ← List.append_assoc]
  rfl

/-- Its token, for a sequence without intermediates. -/
def token : Token := .csi c.marker (c.params.map (·.map UInt16.toNat)) none (Char.ofNat c.final.toNat)

theorem final_value : (Char.ofNat c.final.toNat).toNat = c.final.toNat := by
  have high := UInt8.le_iff_toNat_le.mp c.isFinal.2
  have each : ∀ n, n < 128 → (Char.ofNat n).toNat = n := by decide
  exact each _ (Nat.lt_of_le_of_lt high (by decide))

theorem token_wellFormed : c.token.WellFormed := by
  have low := UInt8.le_iff_toNat_le.mp c.isFinal.1
  have high := UInt8.le_iff_toNat_le.mp c.isFinal.2
  refine ⟨c.isMarker,by simp,fun p inside => ?_,?_,by rw [c.final_value]; exact low,by rw [c.final_value]; exact high⟩
  · obtain ⟨sub,member,rfl⟩ := List.mem_map.mp inside
    refine ⟨by simpa using c.hasValue sub member,fun n written => ?_⟩
    obtain ⟨m,_,rfl⟩ := List.mem_map.mp written
    exact Nat.le_of_lt_succ m.toNat_lt
  · rw [List.map_map,show List.length ∘ (fun sub : List UInt16 => sub.map UInt16.toNat) = List.length from
      funext fun sub => List.length_map _]
    exact c.fits

theorem token_encode : c.token.encode =
    [0x1b,0x5b] ++ c.marker.toList ++ Token.writeParams (c.params.map (·.map UInt16.toNat)) ++ [c.final] := by
  unfold token Token.encode
  dsimp only
  rw [c.final_value,UInt8.ofNat_toNat,Option.toList_none,List.append_nil]

theorem token_callback (bare : c.intermediates = []) : c.token.callback = c.callback false := by
  have some : c.params.map (·.map UInt16.toNat) ≠ [] := by simpa using c.hasParam
  have values : (c.params.map (·.map UInt16.toNat)).map (·.map UInt16.ofNat) = c.params := by
    rw [List.map_map]
    refine (List.map_congr_left fun sub _ => ?_).trans (List.map_id c.params)
    change (sub.map UInt16.toNat).map UInt16.ofNat = sub
    rw [List.map_map]
    exact (List.map_congr_left fun n _ => UInt16.ofNat_toNat).trans (List.map_id sub)
  unfold token Token.callback callback
  dsimp only
  rw [if_neg some,values,bare]
  rfl

/-- The first parameter is written with a digit, so parameter bytes are there. -/
theorem writeParams_parameters : Token.writeParams (c.params.map (·.map UInt16.toNat)) ≠ [] ∧
    ∀ b ∈ Token.writeParams (c.params.map (·.map UInt16.toNat)), 0x30 ≤ b ∧ b ≤ 0x3f := by
  have digits {word : Bytes} {sub : List UInt16} (written : word ∈ (sub.map UInt16.toNat).map writeU16) :
      word ≠ [] ∧ ∀ b ∈ word, 0x30 ≤ b ∧ b ≤ 0x3f := by
    obtain ⟨n,inside,rfl⟩ := List.mem_map.mp written
    obtain ⟨m,_,rfl⟩ := List.mem_map.mp inside
    exact decimal_u16 m ▸ decimal_digits m.toNat
  constructor
  · refine intercalate_ne_nil (by simpa using c.hasParam) fun word inside => ?_
    obtain ⟨values,listed,rfl⟩ := List.mem_map.mp inside
    obtain ⟨sub,member,rfl⟩ := List.mem_map.mp listed
    exact intercalate_ne_nil (by simpa using c.hasValue sub member) fun word written => (digits written).1
  · refine forall_intercalate (by simp) fun word inside => ?_
    obtain ⟨sub,member,rfl⟩ := List.mem_map.mp inside
    obtain ⟨sub,_,rfl⟩ := List.mem_map.mp member
    exact forall_intercalate (by simp) fun word written => (digits written).2

section
variable [Vte] {Ground : Vte.State → Prop} {s : Vte.State}

/-- A CSI with its parameters, subparameters, intermediates and final byte is
    dispatched when its reconstructed bytes are read. -/
def Reparses (s : Vte.State) : Prop := ∃ ignore, c.callback ignore ∈ (Vte.advance s c.reconstructed).2

/-- From a ground state they are exactly if no intermediate belongs behind the
    parameters. -/
theorem reparses_iff (laws : VteLaws) (seqs : VteSequences Ground) (ground : Ground s) : c.Reparses s ↔ c.intermediates = [] := by
  have begun : (Vte.advance s c.reconstructed).2 = (Vte.advance Vte.start c.reconstructed).2 := by
    rw [c.reconstructed_eq]
    exact seqs.begins s _ ground
  rw [Reparses,begun,c.reconstructed_eq]
  constructor
  · rintro ⟨ignore,again⟩
    by_contra some
    obtain ⟨nonempty,digits⟩ := c.writeParams_parameters
    rw [seqs.ignores c.marker c.intermediates _ c.final c.isMarker some c.areIntermediates nonempty digits c.isFinal.1
      c.isFinal.2] at again
    cases again
  · intro bare
    have read := laws.decodes [c.token] [] fun t inside => List.mem_singleton.mp inside ▸ c.token_wellFormed
    rw [laws.nothing,List.append_nil,List.append_nil,encodeAll_cons,encodeAll_nil,List.append_nil,c.token_encode] at read
    refine ⟨false,?_⟩
    rw [bare,List.append_nil,read,List.map_singleton,c.token_callback bare]
    exact List.mem_singleton_self _

end

end CsiSequence

section
attribute [local instance] byteParser blockWidth

theorem reparses_marked : (CsiSequence.mk (some 0x3e) [[4],[2]] [] 0x6d (by simp) (by simp) (by simp) (by decide)
    (by simp) (by decide) (by decide)).Reparses ({} : ByteParser) :=
  (CsiSequence.reparses_iff _ byteParser_laws byteParser_sequences rfl).mpr rfl

/-- `CSI 1 $ z` is dropped and logged as `CSI $ 1 z`, in which nothing is dispatched. -/
theorem dropped_unreadable : (DamageGrid.new 1 2 0).callbacks [[0x1b,0x5b,0x31,0x24,0x7a]] = [.csiDispatch [[1]] [0x24] false 'z'] ∧
    (Grid.new 1 2 0).perform (.csiDispatch [[1]] [0x24] false 'z') =
      .ok ((Grid.new 1 2 0).pushEvent (.droppedCsi [0x1b,0x5b,0x24,0x31,0x7a])) ∧
    ¬ (CsiSequence.mk none [[1]] [0x24] 0x7a (by simp) (by simp) (by simp) (by decide) (by simp) (by decide)
      (by decide)).Reparses ({} : ByteParser) := by
  refine ⟨rfl,rfl,?_⟩
  rintro ⟨ignore,again⟩
  have read : (ByteParser.run {} [0x1b,0x5b,0x24,0x31,0x7a]).2 = [] := rfl
  have inside : .csiDispatch [[1]] [0x24] ignore 'z' ∈ (ByteParser.run {} [0x1b,0x5b,0x24,0x31,0x7a]).2 := again
  rw [read] at inside
  cases inside

end

end Termpane
