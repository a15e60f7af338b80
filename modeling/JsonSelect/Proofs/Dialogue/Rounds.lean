/-
A whole dialogue.  Its lines are taken two at a time, a document and a path, and
what is shown for two of them rests on these two alone.
-/
import JsonSelect.Proofs.Dialogue.Inline
import JsonSelect.Proofs.Dialogue.Lines

namespace JsonSelect.Dialogue

variable {text shown : String} {lines : List String}

/-- The lines two at a time; a last one alone is left out. -/
def pairs : List String → List (String × String)
  | [] | [_] => []
  | document :: path :: rest => (document, path) :: pairs rest

/-- What is shown while a document and a path are asked for and replied to. -/
def round [JsonReader] (pair : String × String) : String :=
  documentPrompt ++ pathPrompt ++ reply pair.1 pair.2

/-- What is shown where the input ends, which one line more or less decides. -/
def lastPrompts (lines : List String) : String :=
  if lines.length % 2 = 0 then documentPrompt else documentPrompt ++ pathPrompt

theorem lastPrompts_cons_cons (document path : String) (lines : List String) :
    lastPrompts (document :: path :: lines) = lastPrompts lines := by
  simp [lastPrompts, Nat.add_assoc]

/-! Replies -/

/-- The lines of the reply to a document and a path: one tells why the document cannot
be read, or else why the path cannot, or else there is one for each match, in the order
of the matches. -/
inductive Replied [JsonReader] (document path : String) : List String → Prop where
  | noDocument {error : JsonReader.Error}
      (hdocument : JsonReader.read document = .error error) :
      Replied document path [JsonReader.describe error]
  | noPath {value : Json} {error : Path.Error}
      (hdocument : JsonReader.read document = .ok value)
      (hpath : Path.ofText? path = .error error) : Replied document path [error.message]
  | found {value : Json} {query : Path} (hdocument : JsonReader.read document = .ok value)
      (hpath : Path.ofText? path = .ok query) :
      Replied document path ((query.queryLocated value).map fun found =>
        found.location.toText ++ " = " ++ found.value.toText)

section Rounds

variable [JsonReader]

theorem exists_replied (document path : String) :
    ∃ answers, Replied document path answers ∧
      reply document path = String.join (answers.map (· ++ "\n")) := by
  unfold reply
  split
  · rename_i error hdocument
    exact ⟨_, .noDocument hdocument, by simp⟩
  · rename_i value hdocument
    split
    · rename_i error hpath
      exact ⟨_, .noPath hdocument hpath, by simp⟩
    · rename_i query hpath
      refine ⟨_, .found hdocument hpath, ?_⟩
      rw [List.map_map]
      rfl

/-- Only what the reader says of a document that it cannot read may take
more than a line. -/
theorem Replied.describes_of_lineFeed_mem {document path : String} {answers : List String}
    (hreplied : Replied document path answers) :
    ∀ answer ∈ answers, '\n' ∈ answer.toList →
      ∃ error, JsonReader.read document = .error error ∧
        answer = JsonReader.describe error := by
  rcases hreplied with hdocument | ⟨hdocument, hpath⟩ | ⟨hdocument, hpath⟩
  · intro answer hanswer _
    exact ⟨_, hdocument, List.mem_singleton.1 hanswer⟩
  · simp [Path.Error.lineFeed_notMem_message]
  · intro answer hanswer hfeed
    obtain ⟨found, -, rfl⟩ := List.mem_map.1 hanswer
    have hvalue : '\n' ∉ found.value.toText.toList := by
      simpa [Json.toText] using Json.lineFeed_notMem_write (by simp) found.value
    simp [found.location.lineFeed_notMem_toText, hvalue] at hfeed

/-! One exchange -/

theorem HasLines.exchange_nil (hlines : HasLines text []) (shown : String) :
    (exchange : Scripted Bool) ⟨octets text, shown⟩ =
      .ok false ⟨[], shown ++ documentPrompt⟩ := by
  rw [run_exchange, hlines.ask_nil]

theorem HasLines.exchange_singleton {line : String} (hlines : HasLines text [line])
    (shown : String) :
    (exchange : Scripted Bool) ⟨octets text, shown⟩ =
      .ok false ⟨[], shown ++ (documentPrompt ++ pathPrompt)⟩ := by
  obtain ⟨rest, hrest, hdocument⟩ := hlines.ask_cons documentPrompt shown
  rw [run_exchange, hdocument]
  simp only [hrest.ask_nil, String.append_assoc]

/-- Where there are two lines and more, the two are replied to and the others are left. -/
theorem HasLines.exchange_cons_cons {document path : String}
    (hlines : HasLines text (document :: path :: lines)) (shown : String) :
    ∃ rest, HasLines rest lines ∧ (exchange : Scripted Bool) ⟨octets text, shown⟩ =
      .ok true ⟨octets rest, shown ++ round (document, path)⟩ := by
  obtain ⟨between, hbetween, hdocument⟩ := hlines.ask_cons documentPrompt shown
  obtain ⟨rest, hrest, hpath⟩ := hbetween.ask_cons pathPrompt (shown ++ documentPrompt)
  refine ⟨rest, hrest, ?_⟩
  rw [run_exchange, hdocument]
  simp only [hpath, round, String.append_assoc]

/-! All exchanges -/

theorem converse_of_true {session next : Session}
    (hexchange : (exchange : Scripted Bool) session = .ok true next) :
    converse session = converse next := by
  rw [converse]
  split <;> simp_all

theorem converse_of_false {session last : Session}
    (hexchange : (exchange : Scripted Bool) session = .ok false last) :
    converse session = (.finished, last) := by
  rw [converse]
  split <;> simp_all

/-- All rounds are shown, then the prompts for what is missing, and no byte is left. -/
theorem HasLines.converse_eq (hlines : HasLines text lines) (shown : String) :
    converse ⟨octets text, shown⟩ =
      (.finished, ⟨[], shown ++
        (String.join ((pairs lines).map round) ++ lastPrompts lines)⟩) := by
  induction lines using pairs.induct generalizing text shown with
  | case1 =>
      rw [converse_of_false (hlines.exchange_nil shown)]
      simp [pairs, lastPrompts]
  | case2 line =>
      rw [converse_of_false (hlines.exchange_singleton shown)]
      simp [pairs, lastPrompts]
  | case3 document path lines ih =>
      obtain ⟨rest, hrest, hexchange⟩ := hlines.exchange_cons_cons shown
      rw [converse_of_true hexchange, ih hrest]
      simp [pairs, String.append_assoc, lastPrompts_cons_cons]

theorem HasLines.hold_eq (hlines : HasLines text lines) :
    hold text.toUTF8 =
      (.finished, String.join ((pairs lines).map round) ++ lastPrompts lines) := by
  have hconverse := hlines.converse_eq ""
  rw [octets, String.empty_append] at hconverse
  rw [hold, hconverse]

/-- A text never breaks a dialogue off. -/
theorem hold_finished (text : String) : (hold text.toUTF8).1 = .finished := by
  obtain ⟨lines, hlines⟩ := exists_hasLines text
  rw [hlines.hold_eq]

/-- A dialogue shows, for each two lines, both prompts and the reply to the two, and at
last the prompts for what is missing, and it ends well.  A reply is told by the document
and the path alone: by a line for each match or for an error of the path, or by what the
reader says of the document. -/
theorem shown_of_hasLines (hlines : HasLines text lines) :
    (hold text.toUTF8).1.code = 0 ∧
    run text =
      String.join ((pairs lines).map fun pair => "json: path: " ++ reply pair.1 pair.2) ++
        (if lines.length % 2 = 0 then "json: " else "json: path: ") ∧
    ∀ document path, ∃ answers, Replied document path answers ∧
      reply document path = String.join (answers.map (· ++ "\n")) ∧
      ∀ answer ∈ answers, '\n' ∈ answer.toList →
        ∃ error, JsonReader.read document = .error error ∧
          answer = JsonReader.describe error := by
  refine ⟨?_, ?_, ?_⟩
  · rw [hold_finished]
    rfl
  · rw [run, hlines.hold_eq]
    rfl
  · intro document path
    obtain ⟨answers, hreplied, hreply⟩ := exists_replied document path
    exact ⟨answers, hreplied, hreply, hreplied.describes_of_lineFeed_mem⟩

end Rounds

theorem shown_of_hasLines_mixed :
    HasLines "[7,8]\r\n$[*]\nx\n$[\n[1]\n$[\n[1]"
      ["[7,8]", "$[*]", "x", "$[", "[1]", "$[", "[1]"] ∧
    run "[7,8]\r\n$[*]\nx\n$[\n[1]\n$[\n[1]" =
      "json: path: $[0] = 7\n$[1] = 8\n" ++
      "json: path: expected value at line 1 column 1\n" ++
      "json: path: at position 2, invalid bracket selector\n" ++
      "json: path: " := by
  have hlines : HasLines "[7,8]\r\n$[*]\nx\n$[\n[1]\n$[\n[1]"
      ["[7,8]", "$[*]", "x", "$[", "[1]", "$[", "[1]"] := by
    have htext : "[7,8]\r\n$[*]\nx\n$[\n[1]\n$[\n[1]" =
        "[7,8]" ++ "\r\n" ++ ("$[*]" ++ "\n" ++
          ("x" ++ "\n" ++ ("$[" ++ "\n" ++ ("[1]" ++ "\n" ++
            ("$[" ++ "\n" ++ "[1]"))))) := rfl
    rw [htext]
    refine .carriageReturn ?_ <| .lineFeed ?_ ?_ <| .lineFeed ?_ ?_ <| .lineFeed ?_ ?_ <|
      .lineFeed ?_ ?_ <| .lineFeed ?_ ?_ <| .unended ?_ ?_ <;> decide
  exact ⟨hlines, (shown_of_hasLines hlines).2.1.trans (by decide +kernel)⟩

end JsonSelect.Dialogue
