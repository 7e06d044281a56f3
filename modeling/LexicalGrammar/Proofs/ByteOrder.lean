import Mathlib.Data.String.Basic

/-
Names in the order of their bytes. Every character is written as one to four bytes. A longer form
begins with a greater byte, and forms of one length have the digits of the code point, the highest
first. So names in the order of their bytes are in the order of their code points.
-/
namespace LexicalGrammar

/-- The first byte in which two forms differ is smaller in the first form; neither ends before. -/
inductive Before : List UInt8 → List UInt8 → Prop where
  | here {a b : UInt8} {rest rest' : List UInt8} : a < b → Before (a :: rest) (b :: rest')
  | later {a : UInt8} {rest rest' : List UInt8} : Before rest rest' →
      Before (a :: rest) (a :: rest')

namespace Before

theorem append {front front' : List UInt8} (before : Before front front')
    (behind behind' : List UInt8) : Before (front ++ behind) (front' ++ behind') := by
  induction before with
  | here less => exact .here less
  | later _ ih => exact .later ih

theorem behind (front : List UInt8) {rest rest' : List UInt8} (before : Before rest rest') :
    Before (front ++ rest) (front ++ rest') := by
  induction front with
  | nil => exact before
  | cons a front ih => exact .later ih

theorem lt {bytes bytes' : List UInt8} (before : Before bytes bytes') : bytes < bytes' := by
  induction before with
  | here less => exact List.cons_lt_cons_iff.2 (Or.inl less)
  | later _ ih => exact List.cons_lt_cons_iff.2 (Or.inr ⟨rfl, ih⟩)

theorem first {a b : Nat} (less : a < b) (small : b < 256) (rest rest' : List UInt8) :
    Before (UInt8.ofNat a :: rest) (UInt8.ofNat b :: rest') := by
  refine .here (UInt8.lt_iff_toNat_lt.2 ?_)
  rw [UInt8.toNat_ofNat', UInt8.toNat_ofNat']
  omega

end Before

/-- Numbers below a bound are written in forms that keep their order. -/
def Increasing (bound : Nat) (form : Nat → List UInt8) : Prop :=
  ∀ v w, v < w → w < bound → Before (form v) (form w)

theorem increasing_lead {bound mark : Nat} (fits : bound + mark ≤ 256) :
    Increasing bound fun v => [UInt8.ofNat (v % bound + mark)] := by
  intro v w less below
  beta_reduce
  rw [Nat.mod_eq_of_lt (Nat.lt_trans less below), Nat.mod_eq_of_lt below]
  exact .first (by omega) (by omega) [] []

/- The digits in front are those of the quotient. If they are equal, the last digit decides. -/
theorem increasing_continue {bound : Nat} {form : Nat → List UInt8}
    (increasing : Increasing bound form) :
    Increasing (bound * 64) fun v => form (v / 64) ++ [UInt8.ofNat (v % 64 + 128)] := by
  intro v w less below
  beta_reduce
  by_cases front : v / 64 = w / 64
  · rw [front]
    exact .behind _ (.first (by omega) (by omega) [] [])
  · exact (increasing (v / 64) (w / 64) (by omega) (by omega)).append _ _

theorem increasing_two :
    Increasing 2048 fun v => [UInt8.ofNat (v / 64 % 32 + 192), UInt8.ofNat (v % 64 + 128)] :=
  increasing_continue (increasing_lead (by omega : 32 + 192 ≤ 256))

theorem increasing_three : Increasing 65536 fun v =>
    [UInt8.ofNat (v / 4096 % 16 + 224), UInt8.ofNat (v / 64 % 64 + 128),
      UInt8.ofNat (v % 64 + 128)] := by
  have form := increasing_continue (increasing_continue
    (increasing_lead (by omega : 16 + 224 ≤ 256)))
  simpa [Nat.div_div_eq_div_mul] using form

theorem increasing_four : Increasing 2097152 fun v =>
    [UInt8.ofNat (v / 262144 % 8 + 240), UInt8.ofNat (v / 4096 % 64 + 128),
      UInt8.ofNat (v / 64 % 64 + 128), UInt8.ofNat (v % 64 + 128)] := by
  have form := increasing_continue (increasing_continue (increasing_continue
    (increasing_lead (by omega : 8 + 240 ≤ 256))))
  simpa [Nat.div_div_eq_div_mul] using form

/- By the lengths of the two forms. -/
theorem before_of_char {c d : Char} (less : c < d) :
    Before (String.utf8EncodeChar c) (String.utf8EncodeChar d) := by
  have less' : c.val.toNat < d.val.toNat := UInt32.lt_iff_toNat_lt.1 (Char.lt_def.1 less)
  have below : d.val.toNat < 1114112 := by
    have valid := d.valid
    simp only [UInt32.isValidChar, Nat.isValidChar] at valid
    omega
  simp only [String.utf8EncodeChar]
  split
  · split
    · exact .first (by omega) (by omega) [] []
    · split
      · exact .first (by omega) (by omega) _ _
      · split <;> exact .first (by omega) (by omega) _ _
  · split
    · rw [if_neg (by omega : ¬ d.val.toNat ≤ 127)]
      split
      · exact increasing_two _ _ less' (by omega)
      · split <;> exact .first (by omega) (by omega) _ _
    · split
      · rw [if_neg (by omega : ¬ d.val.toNat ≤ 127), if_neg (by omega : ¬ d.val.toNat ≤ 2047)]
        split
        · exact increasing_three _ _ less' (by omega)
        · exact .first (by omega) (by omega) _ _
      · rw [if_neg (by omega : ¬ d.val.toNat ≤ 127), if_neg (by omega : ¬ d.val.toNat ≤ 2047),
          if_neg (by omega : ¬ d.val.toNat ≤ 65535)]
        exact increasing_four _ _ less' (by omega)

def bytes (s : String) : List UInt8 :=
  s.toUTF8.data.toList

def codePoints (s : String) : List Nat :=
  s.toList.map Char.toNat

theorem bytes_eq (s : String) : bytes s = s.toList.flatMap String.utf8EncodeChar := by
  have whole : s.toUTF8 = s.toList.utf8Encode := String.utf8Encode_toList.symm
  rw [bytes, whole, List.utf8Encode, List.toList_data_toByteArray]

theorem encoded_lt {l l' : List Char} (less : l < l') :
    l.flatMap String.utf8EncodeChar < l'.flatMap String.utf8EncodeChar := by
  induction l generalizing l' with
  | nil =>
    cases l' with
    | nil => exact absurd less (List.lt_irrefl _)
    | cons d rest =>
      have size : 0 < (String.utf8EncodeChar d).length := by
        rw [String.length_utf8EncodeChar]
        exact d.utf8Size_pos
      obtain ⟨a, behind, form⟩ := List.exists_cons_of_length_pos size
      rw [List.flatMap_cons, form]
      exact List.nil_lt_cons _ _
  | cons c rest ih =>
    cases l' with
    | nil => exact absurd less (List.not_lt_nil _)
    | cons d rest' =>
      rw [List.flatMap_cons, List.flatMap_cons]
      rcases List.cons_lt_cons_iff.1 less with first | ⟨rfl, later⟩
      · exact ((before_of_char first).append _ _).lt
      · exact List.append_left_lt (ih later)

theorem bytes_lt_iff (s t : String) : bytes s < bytes t ↔ s < t := by
  have keeps : ∀ {s t : String}, s < t → bytes s < bytes t := by
    intro s t less
    rw [bytes_eq, bytes_eq]
    exact encoded_lt less
  refine ⟨fun less => ?_, keeps⟩
  by_contra notLess
  by_cases more : t < s
  · exact List.lt_asymm less (keeps more)
  · obtain rfl : s = t := String.le_antisymm more notLess
    exact List.lt_irrefl _ less

/- Three bytes against four. As pairs of 16-bit units they would stand the other way round. -/
example : bytes "\uffe9" < bytes "😀" := (bytes_lt_iff _ _).2 (by decide)

theorem codePoints_lt_iff (s t : String) : codePoints s < codePoints t ↔ s < t := by
  have points : ∀ l l' : List Char, l.map Char.toNat < l'.map Char.toNat ↔ l < l' := by
    intro l
    induction l with
    | nil => intro l'; cases l' <;> simp
    | cons c rest ih =>
      intro l'
      cases l' with
      | nil => simp
      | cons d rest' =>
        rw [List.map_cons, List.map_cons, List.cons_lt_cons_iff, List.cons_lt_cons_iff, ih]
        have less : c.toNat < d.toNat ↔ c < d := by
          rw [Char.lt_def, UInt32.lt_iff_toNat_lt]
          rfl
        rw [less, Char.toNat_inj]
  exact points s.toList t.toList

end LexicalGrammar
