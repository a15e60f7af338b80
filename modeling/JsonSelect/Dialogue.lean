/-
The dialogue of the program: line by line it asks for a document and a path, and
shows where the path leads.  It is held at any console, also at one that has all
its input beforehand and keeps what is shown.
-/
import JsonSelect.Json.JsonReader
import JsonSelect.Json.Writer
import JsonSelect.Location.Writer
import JsonSelect.Path.Reader
import JsonSelect.Selection.Query

namespace JsonSelect.Dialogue

def documentPrompt : String := "json: "

def pathPrompt : String := "path: "

def matchLine (found : Match) : String :=
  found.location.toText ++ " = " ++ found.value.toText ++ "\n"

/-- What is shown for a document and a path: why one of them cannot be read, the
document first, or a line for each match. -/
def reply [JsonReader] (document path : String) : String :=
  match JsonReader.read document with
  | .error error => JsonReader.describe error ++ "\n"
  | .ok document =>
      match Path.ofText? path with
      | .error error => error.message ++ "\n"
      | .ok path => String.join ((path.queryLocated document).map matchLine)

/-- A line without its end, which is a line feed, and a carriage return before it. -/
def withoutEnd (line : String) : String :=
  match line.toList.reverse with
  | '\n' :: '\r' :: rest => String.ofList rest.reverse
  | '\n' :: rest => String.ofList rest.reverse
  | _ => line

/-- Shows texts, and gives the next line with its end; where the input ends the
line is empty. -/
class Console (m : Type → Type) where
  put : String → m Unit
  getLine : m String

section Console

variable {m : Type → Type} [Monad m] [Console m]

/-- Asks for a line; there is none where the input ends. -/
def ask (question : String) : m (Option String) := do
  Console.put question
  let line ← Console.getLine
  return if line.isEmpty then none else some (withoutEnd line)

/-- Asks for a document and a path, and replies.  Tells whether there were both. -/
def exchange [JsonReader] : m Bool := do
  let some document ← ask documentPrompt | return false
  let some path ← ask pathPrompt | return false
  Console.put (reply document path)
  return true

end Console

/-! Dialogues whose input is there beforehand -/

/-- The bytes that were not read yet, and all that was shown. -/
structure Session where
  unread : List UInt8
  shown : String

/-- A line that is no text breaks a dialogue off. -/
abbrev Scripted := EStateM Unit Session

/-- The bytes up to the first line feed and with it, and those behind it. -/
def cutLine : List UInt8 → List UInt8 × List UInt8
  | [] => ([], [])
  | byte :: rest =>
      if byte = 0x0a then ([byte], rest)
      else
        let (line, behind) := cutLine rest
        (byte :: line, behind)

instance : Console Scripted where
  put text session := .ok () ⟨session.unread, session.shown ++ text⟩
  getLine session :=
    let (line, behind) := cutLine session.unread
    match String.fromUTF8? line.toByteArray with
    | some text => .ok text ⟨behind, session.shown⟩
    | none => .error () ⟨behind, session.shown⟩

theorem cutLine_append (bytes : List UInt8) :
    (cutLine bytes).1 ++ (cutLine bytes).2 = bytes := by
  induction bytes with
  | nil => rfl
  | cons byte rest ih =>
      rw [cutLine]
      split
      · rfl
      · exact congrArg (byte :: ·) ih

theorem run_ask (question : String) (session : Session) :
    (ask question : Scripted (Option String)) session =
      match String.fromUTF8? (cutLine session.unread).1.toByteArray with
      | some line =>
          .ok (if line.isEmpty then none else some (withoutEnd line))
            ⟨(cutLine session.unread).2, session.shown ++ question⟩
      | none => .error () ⟨(cutLine session.unread).2, session.shown ++ question⟩ := by
  simp only [ask, bind, EStateM.bind, Console.put, Console.getLine]
  cases String.fromUTF8? (cutLine session.unread).1.toByteArray <;> rfl

theorem run_exchange [JsonReader] (session : Session) :
    (exchange : Scripted Bool) session =
      match (ask documentPrompt : Scripted (Option String)) session with
      | .error () next => .error () next
      | .ok none next => .ok false next
      | .ok (some document) next =>
          match (ask pathPrompt : Scripted (Option String)) next with
          | .error () next => .error () next
          | .ok none next => .ok false next
          | .ok (some path) next =>
              .ok true ⟨next.unread, next.shown ++ reply document path⟩ := by
  simp only [exchange, bind, EStateM.bind]
  rcases (ask documentPrompt : Scripted (Option String)) session with
    ⟨document | _, next⟩ | next
  · rfl
  · simp only [EStateM.bind]
    rcases (ask pathPrompt : Scripted (Option String)) next with
      ⟨path | _, next⟩ | next <;> rfl
  · rfl

theorem unread_lt_of_ask {question line : String} {session next : Session}
    (hask : (ask question : Scripted (Option String)) session = .ok (some line) next) :
    next.unread.length < session.unread.length := by
  have hread : (cutLine session.unread).1 ≠ [] := by
    intro hempty
    have htext : String.fromUTF8? (cutLine session.unread).1.toByteArray = some "" := by
      rw [hempty]; rfl
    simp [run_ask, htext] at hask
  have hnext : (cutLine session.unread).2 = next.unread := by
    rw [run_ask] at hask
    split at hask
    · exact congrArg Session.unread (EStateM.Result.ok.inj hask).2
    · contradiction
  rw [← cutLine_append session.unread, hnext, List.length_append]
  exact Nat.lt_add_of_pos_left (List.length_pos_iff.2 hread)

theorem unread_lt_of_exchange [JsonReader] {session next : Session}
    (hexchange : (exchange : Scripted Bool) session = .ok true next) :
    next.unread.length < session.unread.length := by
  rw [run_exchange] at hexchange
  split at hexchange
  · cases hexchange
  · cases hexchange
  · rename_i between hdocument
    split at hexchange
    · cases hexchange
    · cases hexchange
    · rename_i hpath
      have hlater := unread_lt_of_ask hpath
      cases hexchange
      exact Nat.lt_trans hlater (unread_lt_of_ask hdocument)

/-- How a dialogue comes to its end: where the input ends, or at a line
that is no text. -/
inductive Ending where
  | finished
  | brokenOff

/-- What a program whose dialogue ends so exits with. -/
def Ending.code : Ending → UInt32
  | finished => 0
  | brokenOff => 1

/-- Exchanges until a line is missing or is no text. -/
def converse [JsonReader] (session : Session) : Ending × Session :=
  match _ : (exchange : Scripted Bool) session with
  | .ok true next => converse next
  | .ok false last => (.finished, last)
  | .error () last => (.brokenOff, last)
termination_by session.unread.length
decreasing_by
  rename_i hexchange
  exact unread_lt_of_exchange hexchange

/-- How the dialogue ends for a given input, and what is shown. -/
def hold [JsonReader] (input : ByteArray) : Ending × String :=
  let (ending, session) := converse ⟨input.data.toList, ""⟩
  (ending, session.shown)

/-- What is shown for a given input. -/
def run [JsonReader] (input : String) : String :=
  (hold input.toUTF8).2

end JsonSelect.Dialogue
