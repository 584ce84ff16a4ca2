import CommandGate.Files.Reader
import CommandGate.Proofs.PathNames

/-!
Which text files are read. The parameters have to give a path that shows something and ends in the
extension of a text format. What the system tells of the path has to be that of a small regular file,
and the bytes that it then reads have to be those of a text. Where every regular file can be read and
has the size that is told of it, this comes down to the files themselves. A refusal tells nothing of
the bytes.
-/

namespace CommandGate

namespace Files

variable {system : FileSystem} {limit : Nat} {path : String} {content : ByteArray}
  {parameters : Fields}

def NamesText (path : String) : Prop :=
  ∃ extension, HasExtension path.toList extension ∧
    String.ofList (extension.map Char.toLower) ∈ textExtensions

theorem contains_lowerExtension_iff :
    textExtensions.contains (lowerExtension path) = true ↔ NamesText path := by
  rw [List.contains_iff_mem, lowerExtension, NamesText]
  simp only [← extension?_eq_some_iff]
  cases extension? path.toList with
  | none => simp [textExtensions]
  | some extension => simp

structure Asks (parameters : Fields) (path : String) : Prop where
  given : parameters.get? "file_path" = some (.string path)
  visible : Text.isBlankText path = false
  text : NamesText path

theorem fromUTF8?_eq_some_iff {text : String} :
    String.fromUTF8? content = some text ↔ text.toUTF8 = content := by
  unfold String.fromUTF8?
  split
  next valid =>
    rw [Option.some.injEq]
    constructor
    · rintro rfl
      rfl
    · rintro rfl
      rfl
  next invalid =>
    simp only [reduceCtorEq, false_iff]
    rintro rfl
    exact invalid text.isValidUTF8

/-! ### What is read -/

namespace FileSystem

/-- The system tells of a regular file within the limit, and reads these bytes from it. -/
structure Yields (system : FileSystem) (limit : Nat) (path : String) (content : ByteArray) :
    Prop where
  told : ∃ size, system.metadata path = .ok ⟨true, size⟩ ∧ size ≤ limit
  bytes : system.content path = .ok content

theorem readBytes_eq_ok_iff :
    system.readBytes limit path = .ok content ↔ system.Yields limit path content := by
  unfold readBytes
  constructor
  · intro passed
    split at passed
    next => cases passed
    next metadata told =>
      obtain ⟨isFile, size⟩ := metadata
      cases isFile with
      | false => cases passed
      | true =>
        simp only [Bool.not_true, Bool.false_eq_true, if_false] at passed
        split at passed
        next => cases passed
        next small =>
          refine ⟨⟨size, told, Nat.not_lt.mp small⟩, ?_⟩
          cases outcome : system.content path with
          | error fault =>
            rw [outcome] at passed
            cases passed
          | ok bytes =>
            rw [outcome] at passed
            cases passed
            rfl
  · rintro ⟨⟨size, told, small⟩, bytes⟩
    simp [told, bytes, Nat.not_lt.mpr small, Except.mapError]

theorem readText_eq_ok_iff {text : String} :
    system.readText limit path = .ok text ↔
      NamesText path ∧ system.Yields limit path text.toUTF8 := by
  rw [← contains_lowerExtension_iff, ← readBytes_eq_ok_iff, readText]
  split
  next foreign => simp_all
  next supported =>
    have listed : textExtensions.contains (lowerExtension path) = true := by simpa using supported
    rw [and_iff_right listed]
    cases system.readBytes limit path with
    | error fault => simp
    | ok content =>
      have same : content = text.toUTF8 ↔ String.fromUTF8? content = some text :=
        eq_comm.trans fromUTF8?_eq_some_iff.symm
      simp only [Except.ok.injEq, same]
      cases String.fromUTF8? content <;> simp

/-- The regular files of the system, with their bytes: each can be read, and the size that is told of
it is that of its bytes. -/
structure Serves (system : FileSystem) (files : String → Option ByteArray) : Prop where
  regular : ∀ path content, files path = some content →
    system.metadata path = .ok ⟨true, content.size⟩ ∧ system.content path = .ok content
  other : ∀ path metadata, files path = none → system.metadata path = .ok metadata →
    metadata.isFile = false

theorem Serves.yields_iff {files : String → Option ByteArray} (serves : system.Serves files) :
    system.Yields limit path content ↔ files path = some content ∧ content.size ≤ limit := by
  constructor
  · rintro ⟨⟨size, told, small⟩, bytes⟩
    cases held : files path with
    | none => cases serves.other path _ held told
    | some file =>
      obtain ⟨told', bytes'⟩ := serves.regular path file held
      rw [bytes] at bytes'
      rw [told] at told'
      cases bytes'
      cases told'
      exact ⟨rfl, small⟩
  · rintro ⟨held, small⟩
    obtain ⟨told, bytes⟩ := serves.regular path content held
    exact ⟨⟨content.size, told, small⟩, bytes⟩

end FileSystem

theorem read_eq_ok_iff {result : Json} :
    read system limit parameters = .ok result ↔
      ∃ path text, Asks parameters path ∧ system.Yields limit path text.toUTF8 ∧
        result = .object [("content", .string text)] := by
  unfold read
  constructor
  · intro done
    split at done
    next => cases done
    next path given =>
      cases outcome : system.readText limit path with
      | error refusal =>
        rw [outcome] at done
        cases done
      | ok text =>
        rw [outcome, Except.map, Except.ok.injEq] at done
        obtain ⟨held, visible⟩ := requiredText_eq_ok_iff.mp given
        obtain ⟨named, yields⟩ := FileSystem.readText_eq_ok_iff.mp outcome
        exact ⟨path, text, ⟨held, visible, named⟩, yields, done.symm⟩
  · rintro ⟨path, text, asks, yields, rfl⟩
    have given : requiredText parameters "file_path" = .ok path :=
      requiredText_eq_ok_iff.mpr ⟨asks.given, asks.visible⟩
    have reads : system.readText limit path = .ok text :=
      FileSystem.readText_eq_ok_iff.mpr ⟨asks.text, yields⟩
    simp only [given, reads, Except.map]

/-! ### What a refusal tells -/

def zeros (content : ByteArray) : ByteArray := ⟨Array.replicate content.size 0⟩

/-- The system with zeros for the bytes that it reads. -/
def FileSystem.zeroed (system : FileSystem) : FileSystem where
  metadata := system.metadata
  content path := (system.content path).map zeros

theorem FileSystem.readBytes_zeroed (system : FileSystem) (limit : Nat) (path : String) :
    system.zeroed.readBytes limit path = (system.readBytes limit path).map zeros := by
  unfold readBytes zeroed
  cases system.metadata path with
  | error fault => rfl
  | ok metadata =>
    simp only
    split
    · rfl
    · split
      · rfl
      · cases system.content path <;> rfl

theorem FileSystem.readText_zeroed {refusal : ActionError}
    (refused : system.readText limit path = .error refusal) :
    system.zeroed.readText limit path = .error refusal ∨
      refusal = .failed (path ++ " is not valid UTF-8") := by
  unfold readText at refused ⊢
  rw [readBytes_zeroed]
  split at refused
  next foreign =>
    rw [if_pos foreign]
    exact .inl refused
  next supported =>
    rw [if_neg supported]
    cases outcome : system.readBytes limit path with
    | error fault =>
      rw [outcome] at refused
      exact .inl refused
    | ok content =>
      rw [outcome] at refused
      simp only at refused
      split at refused
      next text decoded => cases refused
      next undecoded => exact .inr (Except.error.inj refused).symm

theorem read_zeroed {refusal : ActionError}
    (refused : read system limit parameters = .error refusal) :
    read system.zeroed limit parameters = .error refusal ∨
      ∃ path, parameters.get? "file_path" = some (.string path) ∧
        refusal = .failed (path ++ " is not valid UTF-8") := by
  unfold read at refused ⊢
  cases given : requiredText parameters "file_path" with
  | error missing =>
    rw [given] at refused
    exact .inl refused
  | ok path =>
    rw [given] at refused
    simp only at refused ⊢
    cases outcome : system.readText limit path with
    | ok text =>
      rw [outcome] at refused
      cases refused
    | error reason =>
      rw [outcome] at refused
      cases refused
      rcases FileSystem.readText_zeroed outcome with same | undecoded
      · exact .inl (by rw [same]; rfl)
      · exact .inr ⟨path, (requiredText_eq_ok_iff.mp given).1, undecoded⟩

/-- A file is read exactly if it is asked for, passes as a small regular file, can be read, and holds
the bytes of a text; then this text is the result. Where the regular files can all be read and have
the size that is told of them, they are read exactly if they are small and hold a text. What a refusal
tells would be told of as many zeros, or it is that the bytes are no text. -/
theorem files_are_read_exactly_if_admitted (system : FileSystem) (limit : Nat)
    (parameters : Fields) :
    (∀ result, read system limit parameters = .ok result ↔
      ∃ path text, Asks parameters path ∧ system.Yields limit path text.toUTF8 ∧
        result = .object [("content", .string text)]) ∧
    (∀ files, system.Serves files →
      ((∃ result, read system limit parameters = .ok result) ↔
        ∃ path content, Asks parameters path ∧ files path = some content ∧
          content.size ≤ limit ∧ ∃ text : String, text.toUTF8 = content) ∧
      ∀ result, read system limit parameters = .ok result →
        ∃ path text, Asks parameters path ∧ files path = some text.toUTF8 ∧
          result = .object [("content", .string text)]) ∧
    ∀ refusal, read system limit parameters = .error refusal →
      read system.zeroed limit parameters = .error refusal ∨
        ∃ path, parameters.get? "file_path" = some (.string path) ∧
          refusal = .failed (path ++ " is not valid UTF-8") := by
  refine ⟨fun result => read_eq_ok_iff, fun files serves => ⟨⟨?_, ?_⟩, ?_⟩,
    fun refusal => read_zeroed⟩
  · rintro ⟨result, done⟩
    obtain ⟨path, text, asks, yields, -⟩ := read_eq_ok_iff.mp done
    obtain ⟨held, small⟩ := serves.yields_iff.mp yields
    exact ⟨path, _, asks, held, small, text, rfl⟩
  · rintro ⟨path, content, asks, held, small, text, rfl⟩
    exact ⟨_, read_eq_ok_iff.mpr ⟨path, text, asks, serves.yields_iff.mpr ⟨held, small⟩, rfl⟩⟩
  · intro result done
    obtain ⟨path, text, asks, yields, same⟩ := read_eq_ok_iff.mp done
    exact ⟨path, text, asks, (serves.yields_iff.mp yields).1, same⟩

end Files

namespace House

open Files

def folder (path : String) : Option ByteArray :=
  [("key.pem", "iron".toUTF8), ("menu.MD", "soup".toUTF8)].lookup path

def kitchen : FileSystem where
  metadata path :=
    match folder path with
    | some content => .ok ⟨true, content.size⟩
    | none => .error "No such file or directory (os error 2)"
  content path :=
    match folder path with
    | some content => .ok content
    | none => .error "No such file or directory (os error 2)"

theorem kitchen_serves : kitchen.Serves folder where
  regular path content held := by simp [kitchen, held]
  other path metadata held told := by simp [kitchen, held] at told

def naming (path : String) : Fields := [("file_path", .string path)]

theorem menu_is_read_and_key_is_not :
    (∃ path text, Asks (naming "menu.MD") path ∧ folder path = some text.toUTF8 ∧
      Json.object [("content", .string "soup")] = .object [("content", .string text)]) ∧
      (¬∃ path content, Asks (naming "key.pem") path ∧ folder path = some content ∧
        content.size ≤ 4 ∧ ∃ text : String, text.toUTF8 = content) ∧
      read kitchen.zeroed 4 (naming "key.pem") =
        .error (.failed "File type '.pem' is not supported") := by
  have menu : read kitchen 4 (naming "menu.MD") = .ok (.object [("content", .string "soup")]) := by
    rfl
  have key : read kitchen 4 (naming "key.pem") =
      .error (.failed "File type '.pem' is not supported") := by
    rfl
  obtain ⟨-, served, -⟩ := files_are_read_exactly_if_admitted kitchen 4 (naming "menu.MD")
  obtain ⟨-, passed, told⟩ := files_are_read_exactly_if_admitted kitchen 4 (naming "key.pem")
  refine ⟨(served _ kitchen_serves).2 _ menu, fun admitted => ?_, ?_⟩
  · obtain ⟨result, done⟩ := (passed _ kitchen_serves).1.mpr admitted
    rw [key] at done
    cases done
  · rcases told _ key with zeroed | ⟨path, given, undecoded⟩
    · exact zeroed
    · obtain rfl : "key.pem" = path := by simpa [naming, Members.get?] using given
      rw [ActionError.failed.injEq] at undecoded
      exact absurd undecoded (by decide)

end House

end CommandGate
