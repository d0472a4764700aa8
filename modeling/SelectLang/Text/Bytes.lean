/-!
# Lengths and cuts in bytes

Positions in a text count the bytes of its UTF-8 form.  `byteLength` measures a text that way and
agrees with the length of the encoded string (`byteLength_toList`); `splitBytes` cuts a text at an
offset and refuses one that falls inside a character or beyond the end (`splitBytes_eq_some_iff`).
-/

namespace SelectLang.Text

/-- The number of bytes of a text in UTF-8. -/
def byteLength : List Char → Nat
  | [] => 0
  | c :: cs => c.utf8Size + byteLength cs

@[simp] theorem byteLength_nil : byteLength [] = 0 := rfl

@[simp] theorem byteLength_cons (c : Char) (cs : List Char) :
    byteLength (c :: cs) = c.utf8Size + byteLength cs := rfl

@[simp] theorem byteLength_append (front rest : List Char) :
    byteLength (front ++ rest) = byteLength front + byteLength rest := by
  induction front with
  | nil => simp
  | cons c front ih => simp [ih, Nat.add_assoc]

theorem size_utf8Encode (cs : List Char) : cs.utf8Encode.size = byteLength cs := by
  induction cs with
  | nil => rfl
  | cons c cs ih =>
    rw [List.utf8Encode_cons, ByteArray.size_append, ih, byteLength_cons,
      List.utf8Encode_singleton, List.size_toByteArray, String.length_utf8EncodeChar]

theorem byteLength_toList (s : String) : byteLength s.toList = s.utf8ByteSize := by
  rw [← size_utf8Encode, ← String.toByteArray_ofList, String.ofList_toList,
    String.size_toByteArray]

/-! ## Cutting -/

/-- The text before byte `n` and the text from there on, if a character begins or the text ends
at that byte. -/
def splitBytes : Nat → List Char → Option (List Char × List Char)
  | 0, cs => some ([], cs)
  | _ + 1, [] => none
  | n + 1, c :: cs =>
      if c.utf8Size ≤ n + 1 then
        (splitBytes (n + 1 - c.utf8Size) cs).map fun cut => (c :: cut.1, cut.2)
      else none

theorem append_of_splitBytes {n : Nat} {cs front rest : List Char}
    (h : splitBytes n cs = some (front, rest)) : cs = front ++ rest ∧ byteLength front = n := by
  fun_induction splitBytes n cs generalizing front with
  | case1 cs =>
    obtain ⟨rfl, rfl⟩ := Prod.mk.inj (Option.some.inj h)
    exact ⟨rfl, rfl⟩
  | case2 => cases h
  | case3 n c cs hle ih =>
    obtain ⟨⟨a, b⟩, hab, hcut⟩ := Option.map_eq_some_iff.1 h
    obtain ⟨rfl, rfl⟩ := Prod.mk.inj hcut
    obtain ⟨rfl, hlen⟩ := ih hab
    exact ⟨rfl, by simp only [byteLength_cons]; omega⟩
  | case4 => cases h

theorem splitBytes_append (front rest : List Char) :
    splitBytes (byteLength front) (front ++ rest) = some (front, rest) := by
  induction front with
  | nil => simp [splitBytes]
  | cons c front ih =>
    obtain ⟨n, hn⟩ : ∃ n, c.utf8Size = n + 1 :=
      ⟨c.utf8Size - 1, by have := Char.utf8Size_pos c; omega⟩
    have hlen : byteLength (c :: front) = (n + byteLength front) + 1 := by
      rw [byteLength_cons]; omega
    rw [hlen, List.cons_append, splitBytes, if_pos (by omega),
      show n + byteLength front + 1 - c.utf8Size = byteLength front by omega, ih]
    rfl

/-- A cut succeeds exactly where it parts the text into whole characters. -/
theorem splitBytes_eq_some_iff {n : Nat} {cs front rest : List Char} :
    splitBytes n cs = some (front, rest) ↔ cs = front ++ rest ∧ byteLength front = n := by
  refine ⟨append_of_splitBytes, ?_⟩
  rintro ⟨rfl, rfl⟩
  exact splitBytes_append front rest

/-- The text between two byte offsets, if both are ends of characters and in order. -/
def sliceBytes (start stop : Nat) (cs : List Char) : Option (List Char) :=
  if start ≤ stop then do
    let (_, rest) ← splitBytes start cs
    let (slice, _) ← splitBytes (stop - start) rest
    return slice
  else none

theorem sliceBytes_append (front slice rest : List Char) :
    sliceBytes (byteLength front) (byteLength front + byteLength slice) (front ++ (slice ++ rest)) =
      some slice := by
  rw [sliceBytes, if_pos (Nat.le_add_right _ _), splitBytes_append, Nat.add_sub_cancel_left]
  change (splitBytes (byteLength slice) (slice ++ rest)).bind (fun cut => some cut.1) = _
  rw [splitBytes_append]
  rfl

end SelectLang.Text
