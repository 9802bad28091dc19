import MailboxControl.Proofs.Codec

/-! The written form of a message. An integer tag is written in hexadecimal and bytes in pairs of digits,
and both can be read back from the text, so that different messages never look the same. -/

namespace MailboxControl

namespace Text

theorem upperHex_of_lt {n : Nat} (h : n < 16) : upperHex n = [n.digitChar.toUpper] := by
  simp [upperHex, Nat.toDigits_of_lt_base h]

theorem upperHex_of_le {n : Nat} (h : 16 ≤ n) :
    upperHex n = upperHex (n / 16) ++ [(n % 16).digitChar.toUpper] := by
  simp [upperHex, Nat.toDigits_of_base_le (by decide : 1 < 16) h]

/-- The value of an upper-case hexadecimal digit. -/
def upperHexValue (c : Char) : Nat := if c.toNat < 65 then c.toNat - 48 else c.toNat - 55

theorem upperHexValue_digitChar : ∀ d < 16, upperHexValue d.digitChar.toUpper = d := by decide

theorem isAlphanum_digitChar : ∀ d < 16, d.digitChar.toUpper.isAlphanum = true := by decide

/-- The number that a row of upper-case digits stands for. -/
def hexMagnitude (cs : List Char) : Nat := cs.foldl (fun n c => 16 * n + upperHexValue c) 0

theorem hexMagnitude_upperHex (n : Nat) : hexMagnitude (upperHex n) = n := by
  induction n using Nat.strongRecOn with
  | ind n ih =>
    by_cases h : n < 16
    · simp [upperHex_of_lt h, hexMagnitude, upperHexValue_digitChar n h]
    · have hq := ih (n / 16) (by omega)
      unfold hexMagnitude at hq ⊢
      rw [upperHex_of_le (by omega), List.foldl_append, hq, List.foldl_cons, List.foldl_nil,
        upperHexValue_digitChar (n % 16) (by omega)]
      omega

theorem isAlphanum_of_mem_upperHex {n : Nat} {c : Char} (h : c ∈ upperHex n) :
    c.isAlphanum = true := by
  induction n using Nat.strongRecOn with
  | ind n ih =>
    by_cases hn : n < 16
    · rw [upperHex_of_lt hn, List.mem_singleton] at h
      exact h ▸ isAlphanum_digitChar n hn
    · rw [upperHex_of_le (by omega), List.mem_append, List.mem_singleton] at h
      rcases h with h | h
      · exact ih (n / 16) (by omega) h
      · exact h ▸ isAlphanum_digitChar (n % 16) (by omega)

/-- Reads what `hexField` writes. -/
def readHexField : List Char → Int
  | '-' :: cs => -(hexMagnitude cs : Int)
  | cs => hexMagnitude cs

theorem readHexField_of_alphanum {cs : List Char} (h : ∀ c ∈ cs, c.isAlphanum = true) :
    readHexField cs = hexMagnitude cs := by
  unfold readHexField
  split
  · next rest => exact absurd (h '-' (by simp)) (by decide)
  · rfl

theorem readHexField_hexField (n : Int) : readHexField (hexField n).toList = n := by
  cases n with
  | ofNat m =>
    have ha := fun c => @isAlphanum_of_mem_upperHex m c
    by_cases hm : m < 16
    · have hz : ∀ c ∈ '0' :: upperHex m, c.isAlphanum = true := by
        intro c hc
        rcases List.mem_cons.mp hc with rfl | hc
        · decide
        · exact ha c hc
      have hv : hexMagnitude ('0' :: upperHex m) = hexMagnitude (upperHex m) := rfl
      simp [hexField, hm, readHexField_of_alphanum hz, hv, hexMagnitude_upperHex]
    · simp [hexField, hm, readHexField_of_alphanum ha, hexMagnitude_upperHex]
  | negSucc m =>
    simp [hexField, readHexField, hexMagnitude_upperHex, Int.negSucc_eq]

theorem hexField_injective {a b : Int} (h : hexField a = hexField b) : a = b := by
  rw [← readHexField_hexField a, h, readHexField_hexField]

theorem comma_not_mem_hexField (n : Int) : ',' ∉ (hexField n).toList := by
  have ha : ∀ m, ',' ∉ upperHex m := fun m h =>
    absurd (isAlphanum_of_mem_upperHex h) (by decide)
  cases n with
  | ofNat m => by_cases hm : m < 16 <;> simp [hexField, hm, ha]
  | negSucc m => simp [hexField, ha]

theorem lowerHexDigit_injective :
    ∀ d < 16, ∀ e < 16, lowerHexDigit d = lowerHexDigit e → d = e := by decide

theorem lowerHexDigit_ne_blank : ∀ d < 16, lowerHexDigit d ≠ ' ' := by decide

theorem lowerHex_two (n : Nat) :
    lowerHex 2 n = [lowerHexDigit (n / 16 % 16), lowerHexDigit (n % 16)] := rfl

theorem lowerHex_injective {a b : UInt8} (h : lowerHex 2 a.toNat = lowerHex 2 b.toNat) : a = b := by
  have ha : a.toNat < 256 := a.toNat_lt
  have hb : b.toNat < 256 := b.toNat_lt
  rw [lowerHex_two, lowerHex_two, List.cons.injEq, List.cons.injEq] at h
  have hhigh := lowerHexDigit_injective _ (by omega) _ (by omega) h.1
  have hlow := lowerHexDigit_injective _ (by omega) _ (by omega) h.2.1
  exact UInt8.toNat_inj.mp (by omega)

/-- Splitting at the blanks gives back the pairs of digits. -/
theorem splitOn_spacedHex {bs : List UInt8} (h : bs ≠ []) :
    (spacedHex bs).toList.splitOn ' ' = bs.map fun b => lowerHex 2 b.toNat := by
  have hl : (spacedHex bs).toList = [' '].intercalate (bs.map fun b => lowerHex 2 b.toNat) := by
    simp [spacedHex, String.toList_intercalate, Function.comp_def]
  rw [hl]
  refine List.splitOn_intercalate ' ' (fun pair hp => ?_) (by simpa using h)
  obtain ⟨b, -, rfl⟩ := List.mem_map.mp hp
  rw [lowerHex_two]
  simp only [List.mem_cons, List.not_mem_nil, or_false, not_or]
  exact ⟨(lowerHexDigit_ne_blank _ (by omega)).symm, (lowerHexDigit_ne_blank _ (by omega)).symm⟩

/-- Bytes as a message shows them. -/
def bytesText (bs : List UInt8) : String := if bs.isEmpty then "(empty)" else spacedHex bs

theorem splitOn_bytesText (bs : List UInt8) :
    (bytesText bs).toList.splitOn ' ' =
      if bs = [] then ["(empty)".toList] else bs.map fun b => lowerHex 2 b.toNat := by
  by_cases h : bs = []
  · subst h
    rfl
  · rw [if_neg h, bytesText, if_neg (by simpa using h), splitOn_spacedHex h]

theorem bytesText_injective {a b : List UInt8} (h : bytesText a = bytesText b) : a = b := by
  have hs := congrArg (fun s : String => s.toList.splitOn ' ') h
  simp only [splitOn_bytesText] at hs
  cases a with
  | nil =>
    cases b with
    | nil => rfl
    | cons y ys => simp [lowerHex_two] at hs
  | cons x xs =>
    cases b with
    | nil => simp [lowerHex_two] at hs
    | cons y ys =>
      simp only [reduceCtorEq, if_false] at hs
      exact (List.map_inj_right fun _ _ => lowerHex_injective).mp hs

end Text

theorem append_cons_inj_of_not_mem {α : Type} {a : α} {xs ys us vs : List α} (hx : a ∉ xs)
    (hy : a ∉ ys) (h : xs ++ a :: us = ys ++ a :: vs) : xs = ys ∧ us = vs := by
  induction xs generalizing ys with
  | nil =>
    cases ys with
    | nil => exact ⟨rfl, (List.cons.inj h).2⟩
    | cons y ys => exact absurd (List.cons.inj h).1 (List.ne_of_not_mem_cons hy)
  | cons x xs ih =>
    cases ys with
    | nil => exact absurd (List.cons.inj h).1.symm (List.ne_of_not_mem_cons hx)
    | cons y ys =>
      obtain ⟨rfl, ht⟩ := List.cons.inj h
      obtain ⟨rfl, hr⟩ := ih (List.not_mem_of_not_mem_cons hx) (List.not_mem_of_not_mem_cons hy) ht
      exact ⟨rfl, hr⟩

theorem Value.same_of_integers {v w : Value} {a b : Int} (hv : v.integer? = some a)
    (hw : w.integer? = some b) : v.same w = true ↔ a = b := by
  have hn := number?_of_integer? hv
  have hm := number?_of_integer? hw
  have hs : v.same w = (Number.whole a).same (.whole b) := by
    cases v with
    | bool x => cases w <;> simp_all [same]
    | int x => cases w <;> simp_all [same]
    | code x => cases w <;> simp_all [same]
    | _ => cases hv
  simp [hs, Number.same]

namespace Message

def heading : Direction → String
  | .request => "CommandMessage(command=0x"
  | .reply => "ResponseMessage(status=0x"

/-- The written form of an integer tag with bytes. -/
def written (direction : Direction) (n : Int) (bs : Bytes) : String :=
  heading direction ++ Text.hexField n ++ ", args=" ++ Text.bytesText bs ++ ")"

theorem tagText_of_integer? {tag : Value} {n : Int} (h : tag.integer? = some n) :
    tagText tag = .ok (Text.hexField n) := by
  cases tag with
  | bool b => simp only [tagText, h]
  | int k => simp only [tagText, h]
  | code c => simp only [tagText, h]
  | _ => cases h

theorem argsText_bytes (bs : Bytes) : argsText (.bytes bs) = .ok (Text.bytesText bs) := by
  cases bs <;> rfl

theorem describe_eq_written {m : Message} {n : Int} {bs : Bytes} (hn : m.tag.integer? = some n)
    (hb : m.args = .bytes bs) (direction : Direction) :
    m.describe direction = .ok (written direction n bs) := by
  rw [describe, tagText_of_integer? hn, hb, argsText_bytes]
  cases direction <;> rfl

/-- The comma after the tag is the first one, so the text falls apart in one way only. -/
theorem written_injective {direction : Direction} {a b : Int} {bs cs : Bytes}
    (h : written direction a bs = written direction b cs) : a = b ∧ bs = cs := by
  have hcomma : ", args=".toList = ',' :: " args=".toList := rfl
  have hl := congrArg String.toList h
  simp only [written, String.toList_append, List.append_assoc, hcomma, List.cons_append] at hl
  obtain ⟨htag, hrest⟩ := append_cons_inj_of_not_mem (Text.comma_not_mem_hexField a)
    (Text.comma_not_mem_hexField b) (List.append_cancel_left hl)
  have hargs := List.append_cancel_right (List.append_cancel_left hrest)
  exact ⟨Text.hexField_injective (String.toList_inj.mp htag),
    Text.bytesText_injective (String.toList_inj.mp hargs)⟩

/-- Messages with integers and bytes are written alike exactly if they are equal. -/
theorem written_eq_iff_same {m k : Message} {a b : Int} {bs cs : Bytes}
    (ha : m.tag.integer? = some a) (hbs : m.args = .bytes bs) (hb : k.tag.integer? = some b)
    (hcs : k.args = .bytes cs) (direction : Direction) :
    written direction a bs = written direction b cs ↔ m.same k = true := by
  have hsame : m.same k = true ↔ a = b ∧ bs = cs := by
    rw [same, Bool.and_eq_true, Value.same_of_integers ha hb, hbs, hcs]
    simp [Value.same]
  rw [hsame]
  constructor
  · exact written_injective
  · rintro ⟨rfl, rfl⟩
    rfl

end Message

end MailboxControl
