/-
The lines of a text, and how questions read them from its bytes.  No character
but a line feed has the byte of a line feed in its encoding, so the bytes are
cut where the text is.
-/
import Mathlib
import JsonSelect.Dialogue

namespace JsonSelect.Dialogue

/-- The lines of a text.  A line feed ends a line, as does a carriage return before it;
the last line may lack its end. -/
inductive HasLines : String → List String → Prop where
  | nil : HasLines "" []
  | unended {line : String} (hsome : line ≠ "") (hinner : '\n' ∉ line.toList) :
      HasLines line [line]
  | lineFeed {line text : String} {lines : List String} (hinner : '\n' ∉ line.toList)
      (hlast : line.toList.getLast? ≠ some '\r') (hrest : HasLines text lines) :
      HasLines (line ++ "\n" ++ text) (line :: lines)
  | carriageReturn {line text : String} {lines : List String}
      (hinner : '\n' ∉ line.toList)
      (hrest : HasLines text lines) : HasLines (line ++ "\r\n" ++ text) (line :: lines)

variable {line text question shown : String} {lines : List String}
    {bytes rest : List UInt8}

theorem HasLines.exists_push (hlines : HasLines text lines) (c : Char) :
    ∃ lines, HasLines (String.singleton c ++ text) lines := by
  have hsome (line : String) : String.singleton c ++ line ≠ "" := by simp
  by_cases hfeed : c = '\n'
  · subst hfeed
    exact ⟨_, @HasLines.lineFeed "" _ _ (by simp) (by simp) hlines⟩
  have hinner {line : String} (hline : '\n' ∉ line.toList) :
      '\n' ∉ (String.singleton c ++ line).toList := by
    simp [Ne.symm hfeed, hline]
  induction hlines with
  | nil => exact ⟨_, .unended (hsome "") (hinner (by simp))⟩
  | unended _ hline => exact ⟨_, .unended (hsome _) (hinner hline)⟩
  | @lineFeed line text lines hline hlast hrest _ =>
      rw [← String.append_assoc, ← String.append_assoc]
      by_cases hreturn : c = '\r' ∧ line = ""
      · obtain ⟨rfl, rfl⟩ := hreturn
        exact ⟨_, @HasLines.carriageReturn "" _ _ (by simp) hrest⟩
      · refine ⟨_, .lineFeed (hinner hline) ?_ hrest⟩
        rw [String.toList_append, String.toList_singleton, List.singleton_append,
          List.getLast?_cons]
        rcases hend : line.toList.getLast? with _ | last
        · have hempty : line = "" := by simpa using hend
          simpa [hempty] using hreturn
        · simpa [hend] using hlast
  | carriageReturn hline hrest =>
      rw [← String.append_assoc, ← String.append_assoc]
      exact ⟨_, .carriageReturn (hinner hline) hrest⟩

theorem exists_hasLines (text : String) : ∃ lines, HasLines text lines := by
  have hchars (chars : List Char) : ∃ lines, HasLines (String.ofList chars) lines := by
    induction chars with
    | nil => exact ⟨[], .nil⟩
    | cons c chars ih =>
        obtain ⟨lines, hlines⟩ := ih
        simpa using hlines.exists_push c
  simpa using hchars text.toList

/-! The bytes of a text -/

def octets (text : String) : List UInt8 :=
  text.toUTF8.data.toList

theorem octets_append (text other : String) :
    octets (text ++ other) = octets text ++ octets other := by
  simp [octets]

theorem octets_eq (text : String) :
    octets text = text.toList.flatMap String.utf8EncodeChar := by
  rw [octets, String.toUTF8_eq_toByteArray, ← String.utf8Encode_toList, List.utf8Encode,
    List.data_toByteArray, List.toList_toArray]

theorem fromUTF8?_octets (text : String) :
    String.fromUTF8? (octets text).toByteArray = some text := by
  have hbytes : (octets text).toByteArray = text.toByteArray := by
    rw [octets_eq, ← String.utf8Encode_toList, List.utf8Encode]
  rw [hbytes, String.fromUTF8?, dif_pos text.isValidUTF8]
  rfl

theorem eq_lineFeed_of_mem_utf8EncodeChar {c : Char}
    (hmem : 0x0a ∈ String.utf8EncodeChar c) :
    c = '\n' := by
  have hcode : c.toNat = 0x0a := by
    simp only [String.utf8EncodeChar, Char.toNat_val] at hmem
    split_ifs at hmem <;> simp [← UInt8.toNat_inj] at hmem <;> omega
  exact Char.toNat_inj.1 hcode

theorem lineFeed_notMem_octets (hinner : '\n' ∉ line.toList) : 0x0a ∉ octets line := by
  rw [octets_eq, List.mem_flatMap]
  rintro ⟨c, hc, hmem⟩
  exact hinner (eq_lineFeed_of_mem_utf8EncodeChar hmem ▸ hc)

/-! The bytes of a line -/

theorem cutLine_append_lineFeed (hinner : 0x0a ∉ bytes) :
    cutLine (bytes ++ 0x0a :: rest) = (bytes ++ [0x0a], rest) := by
  induction bytes with
  | nil => simp [cutLine]
  | cons byte bytes ih =>
      rw [List.mem_cons, not_or] at hinner
      simp [cutLine, ih hinner.2, Ne.symm hinner.1]

theorem cutLine_of_notMem (hinner : 0x0a ∉ bytes) : cutLine bytes = (bytes, []) := by
  induction bytes with
  | nil => rfl
  | cons byte bytes ih =>
      rw [List.mem_cons, not_or] at hinner
      simp [cutLine, ih hinner.2, Ne.symm hinner.1]

/-! A line without its end -/

theorem withoutEnd_lineFeed (hlast : line.toList.getLast? ≠ some '\r') :
    withoutEnd (line ++ "\n") = line := by
  rw [← List.head?_reverse] at hlast
  have hreverse : (line ++ "\n").toList.reverse = '\n' :: line.toList.reverse := by simp
  rw [withoutEnd, hreverse]
  split
  · rename_i hcons
    rw [(List.cons.inj hcons).2] at hlast
    exact absurd rfl hlast
  · rename_i hcons
    rw [← (List.cons.inj hcons).2, List.reverse_reverse, String.ofList_toList]
  · rename_i hother
    exact absurd rfl (hother _)

theorem withoutEnd_carriageReturn (line : String) :
    withoutEnd (line ++ "\r\n") = line := by
  simp [withoutEnd]

theorem withoutEnd_unended (hinner : '\n' ∉ line.toList) : withoutEnd line = line := by
  rw [← List.mem_reverse] at hinner
  rw [withoutEnd]
  split
  · simp_all
  · simp_all
  · rfl

/-! Questions -/

theorem ask_of_cutLine {line : String} (hcut : cutLine bytes = (octets line, rest)) :
    (ask question : Scripted (Option String)) ⟨bytes, shown⟩ =
      .ok (if line.isEmpty then none else some (withoutEnd line))
        ⟨rest, shown ++ question⟩ := by
  rw [run_ask, hcut, fromUTF8?_octets]

theorem ask_ended (hinner : '\n' ∉ line.toList) (text : String) :
    (ask question : Scripted (Option String)) ⟨octets (line ++ "\n" ++ text), shown⟩ =
      .ok (some (withoutEnd (line ++ "\n"))) ⟨octets text, shown ++ question⟩ := by
  have hcut : cutLine (octets (line ++ "\n" ++ text)) =
      (octets (line ++ "\n"), octets text) := by
    rw [octets_append, octets_append, List.append_assoc]
    exact cutLine_append_lineFeed (lineFeed_notMem_octets hinner)
  rw [ask_of_cutLine hcut, if_neg]
  simp

theorem HasLines.ask_nil (hlines : HasLines text []) (question shown : String) :
    (ask question : Scripted (Option String)) ⟨octets text, shown⟩ =
      .ok none ⟨[], shown ++ question⟩ := by
  cases hlines
  rfl

/-- A question gets the first line, and leaves the others. -/
theorem HasLines.ask_cons (hlines : HasLines text (line :: lines))
    (question shown : String) :
    ∃ rest, HasLines rest lines ∧
      (ask question : Scripted (Option String)) ⟨octets text, shown⟩ =
        .ok (some line) ⟨octets rest, shown ++ question⟩ := by
  rcases hlines with _ | ⟨hsome, hinner⟩ | ⟨hinner, hlast, hrest⟩ | ⟨hinner, hrest⟩
  · refine ⟨"", .nil, ?_⟩
    rw [ask_of_cutLine (cutLine_of_notMem (lineFeed_notMem_octets hinner)),
      if_neg (by simpa), withoutEnd_unended hinner]
    rfl
  · rename_i rest
    exact ⟨rest, hrest, by rw [ask_ended hinner, withoutEnd_lineFeed hlast]⟩
  · rename_i rest
    refine ⟨rest, hrest, ?_⟩
    have hcarriage : line ++ "\r\n" = line ++ "\r" ++ "\n" := by
      rw [String.append_assoc]; rfl
    rw [hcarriage, ask_ended (by simpa), ← hcarriage, withoutEnd_carriageReturn]

end JsonSelect.Dialogue
