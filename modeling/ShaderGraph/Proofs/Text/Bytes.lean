/-!
# Texts and their bytes

Where every byte of a text is a character, the characters can be taken from the bytes at once,
and the bytes of a text are those of its characters in order. Runs on fixed texts are computed
in this way, since decoding a text goes to each character from the first byte again, and
encoding one copies the bytes before each byte.
-/

namespace ShaderGraph
namespace Text

/-- The characters of a text, which are its bytes if all of these are characters. -/
def fromBytes (text : String) : List Char :=
  let bytes := text.toByteArray.data.toList
  if bytes.all (· < 128) then bytes.map fun byte => Char.ofNat byte.toNat else text.toList

theorem map_utf8EncodeChar
    {character : Char}
    (single : ∀ byte ∈ String.utf8EncodeChar character, byte < 128) :
    (String.utf8EncodeChar character).map (fun byte => Char.ofNat byte.toNat) = [character] := by
  rw [String.utf8EncodeChar] at single ⊢
  by_cases small : character.val.toNat ≤ 127
  · have same : (UInt8.ofNat character.val.toNat).toNat = character.val.toNat := by
      rw [UInt8.toNat_ofNat']
      omega
    rw [if_pos small, List.map_singleton, same]
    exact congrArg (fun value => [value]) character.ofNat_toNat
  · have large : ∀ value, 128 ≤ value % 256 -> ¬UInt8.ofNat value < 128 := by
      intro value bound less
      rw [UInt8.lt_iff_toNat_lt, UInt8.toNat_ofNat'] at less
      exact absurd (Nat.lt_of_le_of_lt bound less) (by decide)
    rw [if_neg small] at single
    split at single
    · exact absurd (single _ List.mem_cons_self) (large _ (by omega))
    split at single
    · exact absurd (single _ List.mem_cons_self) (large _ (by omega))
    · exact absurd (single _ List.mem_cons_self) (large _ (by omega))

theorem map_utf8Encode
    {characters : List Char}
    (single : ∀ byte ∈ characters.flatMap String.utf8EncodeChar, byte < 128) :
    (characters.flatMap String.utf8EncodeChar).map (fun byte => Char.ofNat byte.toNat) =
      characters := by
  induction characters with
  | nil => rfl
  | cons first rest inductionHypothesis =>
      rw [List.flatMap_cons] at single ⊢
      obtain ⟨front, behind⟩ := List.forall_mem_append.mp single
      rw [List.map_append, map_utf8EncodeChar front, inductionHypothesis behind]
      rfl

/-- The characters that are decoded are those that the bytes tell. -/
theorem toList_eq_fromBytes : String.toList = fromBytes := by
  funext text
  rw [fromBytes]
  split
  case isFalse => rfl
  case isTrue single =>
    have bytes : (String.ofList text.toList).toByteArray.data.toList =
        text.toList.flatMap String.utf8EncodeChar := by
      rw [String.toByteArray_ofList, List.utf8Encode, List.toList_data_toByteArray]
    rw [String.ofList_toList] at bytes
    rw [bytes] at single ⊢
    refine (map_utf8Encode fun byte present => ?_).symm
    exact of_decide_eq_true (List.all_eq_true.mp single byte present)

theorem utf8Encode_eq (characters : List Char) :
    characters.utf8Encode = ⟨⟨characters.flatMap String.utf8EncodeChar⟩⟩ :=
  ByteArray.ext (Array.ext' List.toList_data_toByteArray)

/-- The text of some characters, with their bytes in order. -/
def toBytes (characters : List Char) : String :=
  ⟨⟨⟨characters.flatMap String.utf8EncodeChar⟩⟩, utf8Encode_eq characters ▸ ⟨characters, rfl⟩⟩

/-- The text that is encoded has the bytes of its characters in order. -/
theorem ofList_eq_toBytes : String.ofList = toBytes := by
  funext characters
  rw [← String.toByteArray_inj, String.toByteArray_ofList, utf8Encode_eq]
  rfl

end Text
end ShaderGraph
