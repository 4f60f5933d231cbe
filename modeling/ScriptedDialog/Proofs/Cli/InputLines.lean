import ScriptedDialog.Cli.Chat

/-! The lines of an input that is the encoding of a text. Every character but the
line feed is encoded without the line feed's byte, so cutting the bytes is cutting
the text, and each line is a text again. Texts without line feeds that are put one
to a line are the lines of what they make. -/

namespace ScriptedDialog.Cli

/-! ### Byte arrays as lists -/

/-- Reading from a position adds the bytes that are left, which the induction counts. -/
theorem toList_loop (bytes : ByteArray) {left i : Nat} (h : i + left = bytes.data.toList.length)
    (front : List UInt8) :
    ByteArray.toList.loop bytes i front = front.reverse ++ bytes.data.toList.drop i := by
  have hsize : bytes.size = i + left := h.symm
  induction left generalizing i front with
  | zero =>
    rw [ByteArray.toList.loop, if_neg (by omega), List.drop_eq_nil_of_le (by omega),
      List.append_nil]
  | succ left ih =>
    have hi : i < bytes.data.toList.length := by omega
    have hget : bytes.get! i = bytes.data.toList[i] := by simp [ByteArray.get!, hsize]
    rw [ByteArray.toList.loop, if_pos (by omega), ih (by omega) _ (by omega),
      List.drop_eq_getElem_cons hi, hget, List.reverse_cons, List.append_assoc,
      List.singleton_append]

theorem toList_toByteArray (bytes : List UInt8) : bytes.toByteArray.toList = bytes := by
  have h := toList_loop bytes.toByteArray (Nat.zero_add _) []
  rwa [List.toList_data_toByteArray] at h

/-! ### The bytes of a character -/

theorem encode_ne_nil (c : Char) : String.utf8EncodeChar c ≠ [] := by
  unfold String.utf8EncodeChar
  grind

/-- A character of one byte is that byte, and the bytes of all others are 128 at least. -/
theorem lineFeed_not_mem_encode {c : Char} (hc : c ≠ '\n') : 10 ∉ String.utf8EncodeChar c := by
  have hval : c.val.toNat ≠ 10 := fun h => hc (Char.ext (UInt32.toNat.inj h))
  have hbyte {n : Nat} (h : n % 256 ≠ 10) : 10 ≠ UInt8.ofNat n := by
    intro he
    have hn : 10 = n % 256 := congrArg UInt8.toNat he
    omega
  unfold String.utf8EncodeChar
  simp only []
  split
  · simp only [List.mem_singleton]
    exact hbyte (by omega)
  · split
    · simp only [List.mem_cons, List.not_mem_nil, or_false, not_or]
      exact ⟨hbyte (by omega), hbyte (by omega)⟩
    · split
      · simp only [List.mem_cons, List.not_mem_nil, or_false, not_or]
        exact ⟨hbyte (by omega), hbyte (by omega), hbyte (by omega)⟩
      · simp only [List.mem_cons, List.not_mem_nil, or_false, not_or]
        exact ⟨hbyte (by omega), hbyte (by omega), hbyte (by omega), hbyte (by omega)⟩

/-! ### Cutting -/

/-- A text in pieces that end with a line feed; the last need not. -/
def textLines : List Char → List (List Char)
  | [] => []
  | c :: cs =>
    if c = '\n' then [c] :: textLines cs
    else match textLines cs with
      | [] => [[c]]
      | line :: later => (c :: line) :: later

theorem textLines_append {line : List Char} (h : '\n' ∉ line) (rest : List Char) :
    textLines (line ++ '\n' :: rest) = (line ++ ['\n']) :: textLines rest := by
  induction line with
  | nil => rfl
  | cons c cs ih =>
    obtain ⟨hc, hcs⟩ := not_or.mp (mt List.mem_cons.mpr h)
    rw [List.cons_append, textLines, if_neg (Ne.symm hc), ih hcs]
    rfl

/-- Bytes that are no line feed go to the front of the first line after them. -/
theorem byteLines_append {front : List UInt8} (h : 10 ∉ front) (hne : front ≠ [])
    (rest : List UInt8) :
    byteLines (front ++ rest) = match byteLines rest with
      | [] => [front]
      | line :: later => (front ++ line) :: later := by
  induction front with
  | nil => exact absurd rfl hne
  | cons b bs ih =>
    obtain ⟨hb, hbs⟩ := not_or.mp (mt List.mem_cons.mpr h)
    rw [List.cons_append, byteLines, if_neg (Ne.symm hb)]
    cases bs with
    | nil => rfl
    | cons b' bs =>
      rw [ih hbs (List.cons_ne_nil b' bs)]
      cases byteLines rest <;> rfl

/-- Cutting the encoding of a text is encoding its pieces. -/
theorem byteLines_encode (cs : List Char) :
    byteLines (cs.flatMap String.utf8EncodeChar) =
      (textLines cs).map (·.flatMap String.utf8EncodeChar) := by
  induction cs with
  | nil => rfl
  | cons c cs ih =>
    rw [List.flatMap_cons, textLines]
    split
    · next hc =>
      subst hc
      show [10] :: byteLines (cs.flatMap String.utf8EncodeChar) = _
      rw [ih]
      rfl
    · next hc =>
      rw [byteLines_append (lineFeed_not_mem_encode hc) (encode_ne_nil c), ih]
      cases textLines cs with
      | nil => simp
      | cons line later => simp

theorem fromUTF8?_toByteArray (s : String) : String.fromUTF8? s.toByteArray = some s := by
  rw [String.fromUTF8?, dif_pos s.isValidUTF8]
  rfl

theorem fromUTF8?_encode (cs : List Char) :
    String.fromUTF8? (cs.flatMap String.utf8EncodeChar).toByteArray = some (String.ofList cs) := by
  have h := fromUTF8?_toByteArray (String.ofList cs)
  rwa [String.toByteArray_ofList] at h

/-! ### Inputs -/

/-- All lines of a text's encoding can be read. -/
theorem inputLines_toUTF8 (text : String) :
    inputLines text.toUTF8 = (textLines text.toList).map fun line => .ok (String.ofList line) := by
  have hbytes : text.toUTF8.toList = text.toList.flatMap String.utf8EncodeChar := by
    rw [← toList_toByteArray (text.toList.flatMap _)]
    show text.toByteArray.toList = text.toList.utf8Encode.toList
    rw [← String.toByteArray_ofList, String.ofList_toList]
  rw [inputLines, hbytes, byteLines_encode, List.map_map]
  congr 1
  funext line
  simp only [Function.comp_apply, fromUTF8?_encode]

/-- An input with each of some texts on a line of its own. -/
def typed (texts : List String) : ByteArray := (String.join (texts.map (· ++ "\n"))).toUTF8

theorem textLines_join {texts : List String} (h : ∀ text ∈ texts, '\n' ∉ text.toList) :
    textLines (String.join (texts.map (· ++ "\n"))).toList =
      texts.map fun text => text.toList ++ ['\n'] := by
  induction texts with
  | nil => rfl
  | cons text texts ih =>
    obtain ⟨htext, htexts⟩ := List.forall_mem_cons.mp h
    rw [List.map_cons, String.join_cons, String.toList_append, String.toList_append,
      List.append_assoc]
    show textLines (text.toList ++ '\n' :: (String.join (texts.map (· ++ "\n"))).toList) = _
    rw [textLines_append htext, ih htexts, List.map_cons]

theorem inputLines_typed {texts : List String} (h : ∀ text ∈ texts, '\n' ∉ text.toList) :
    inputLines (typed texts) = texts.map fun text => .ok (text ++ "\n") := by
  rw [typed, inputLines_toUTF8, textLines_join h, List.map_map]
  congr 1
  funext text
  show Except.ok (String.ofList (text.toList ++ "\n".toList)) = _
  rw [String.ofList_append, String.ofList_toList, String.ofList_toList]

end ScriptedDialog.Cli
