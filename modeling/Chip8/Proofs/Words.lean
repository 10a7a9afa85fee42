import Chip8.Word

/-! Words, the numbers that they stand for and the bytes that they take. Both ways of writing a word down lose nothing:
    the bytes tell the word, and so does its number. -/

namespace Chip8

namespace Word

/-! ### Numbers -/

theorem toNat_ofInt (n : Int) : ((ofInt n).toNat : Int) = n % 65536 := by
  unfold ofInt UInt16.ofInt
  rw [UInt16.toNat_ofNat']
  omega

/-- Only the low sixteen bits of a number count. -/
theorem ofInt_emod (n : Int) : ofInt (n % 65536) = ofInt n := by
  rw [← UInt16.toNat_inj]
  have := toNat_ofInt n
  have := toNat_ofInt (n % 65536)
  omega

theorem ofInt_toNat (w : Word) : ofInt w.toNat = w := by
  rw [← UInt16.toNat_inj]
  have := toNat_ofInt w.toNat
  have := w.toNat_lt
  omega

/-! ### Bytes -/

theorem toNat_ofBytes (high low : Byte) : (ofBytes high low).toNat = 256 * high.toNat + low.toNat := by
  have := high.toNat_lt
  have := low.toNat_lt
  rw [ofBytes, UInt16.toNat_ofNat']
  omega

theorem bytes_ofBytes (high low : Byte) : (ofBytes high low).bytes = [high, low] := by
  have hhigh := high.toNat_lt
  have hlow := low.toNat_lt
  have hfirst : UInt8.ofNat ((ofBytes high low).toNat / 256) = high := by
    rw [← UInt8.toNat_inj, UInt8.toNat_ofNat', toNat_ofBytes]
    omega
  have hsecond : UInt8.ofNat (ofBytes high low).toNat = low := by
    rw [← UInt8.toNat_inj, UInt8.toNat_ofNat', toNat_ofBytes]
    omega
  rw [bytes, hfirst, hsecond]

theorem bytes_inj {w w' : Word} (h : w.bytes = w'.bytes) : w = w' := by
  simp only [bytes, List.cons.injEq, and_true, ← UInt8.toNat_inj, UInt8.toNat_ofNat'] at h
  have := w.toNat_lt
  have := w'.toNat_lt
  rw [← UInt16.toNat_inj]
  omega

/-- The words are told by their bytes, all written one after the other. -/
theorem flatMap_bytes_inj {ws ws' : List Word} (h : ws.flatMap bytes = ws'.flatMap bytes) : ws = ws' := by
  induction ws generalizing ws' with
  | nil =>
    cases ws' with
    | nil => rfl
    | cons w' ws' => cases h
  | cons w ws ih =>
    cases ws' with
    | nil => cases h
    | cons w' ws' =>
      rw [List.flatMap_cons, List.flatMap_cons] at h
      obtain ⟨hfirst, hrest⟩ := List.append_inj h rfl
      rw [bytes_inj hfirst, ih hrest]

end Word

/-! ### Programs -/

namespace Program

theorem assemble_eq (words : List Int) : assemble words = (words.map Word.ofInt).flatMap Word.bytes := by
  rw [assemble, List.flatMap_map]

theorem assemble_length (words : List Int) : (assemble words).length = 2 * words.length := by
  induction words with
  | nil => rfl
  | cons n words ih =>
    show ((Word.ofInt n).bytes ++ assemble words).length = 2 * (words.length + 1)
    rw [List.length_append, ih]
    simp only [Word.bytes, List.length_cons, List.length_nil]
    omega

/-- The numbers of words are assembled to their bytes. -/
theorem assemble_toNat (ws : List Word) : assemble (ws.map fun w => (w.toNat : Int)) = ws.flatMap Word.bytes := by
  rw [assemble, List.flatMap_map]
  congr 1
  funext w
  rw [Word.ofInt_toNat]

end Program

end Chip8
