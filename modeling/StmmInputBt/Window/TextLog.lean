import StmmInputBt.Foundation.Run
import StmmInputBt.Foundation.TextBytes
import StmmInputBt.Foundation.TextLines

/-!
# The log of the window

`printStringToLog` of `btkbwindow.cc` appends a string to a text buffer and counts the call as one
line. From a limit on, it erases one line for every call. A string with a line end inside, such as
the message on a refresh that takes too long, adds more than one line; one that is not a text adds
none.

The text buffer comes from the Gtk library. Here it is any `TextBuffer`: the functions that are
called, with what is documented of them. `TextBuffer.gtk` is one that holds its characters.

## Main definitions

* `TextBuffer`: a text buffer.
* `TextLog`, `TextLog.printStringToLog`: the text buffer and its counter.
* `TextLog.Bounded`: the counter is the number of lines, which is limited.
* `TextLog.PrintsOneLine`: the condition on a string.

## Main results

* `TextLog.boundedLog_iff`.
-/

namespace StmmInputBt

open TextLines

/-- `Gtk::TextBuffer`. -/
structure TextBuffer where
  Buffer : Type
  create : Buffer
  /-- The characters from `begin()` to `end()`. -/
  text : Buffer → List Char
  /-- `insert` at `end()`. -/
  insertAtEnd : ByteArray → Buffer → Buffer
  /-- `erase` from `begin()` to `get_iter_at_line(1)`. -/
  eraseFirstLine : Buffer → Buffer
  text_create : text create = []
  /-- A text is inserted as it is. -/
  text_insertAtEnd : ∀ (oBuffer : Buffer) {aByte : ByteArray} {s : List Char},
    EncodesText aByte s → text (insertAtEnd aByte oBuffer) = text oBuffer ++ s
  /-- What is not valid UTF-8, or holds a NUL, is refused. -/
  insertAtEnd_refused : ∀ (oBuffer : Buffer) {aByte : ByteArray},
    (¬ ∃ s, EncodesText aByte s) → insertAtEnd aByte oBuffer = oBuffer
  /-- The second line begins after the first line end. -/
  text_eraseFirstLine : ∀ oBuffer : Buffer, 0 < lineCount (text oBuffer) →
    text (eraseFirstLine oBuffer) = afterFirstLine (text oBuffer)

/-- The text buffer with what is counted beside it. -/
structure TextLog (oText : TextBuffer) where
  buffer : oText.Buffer
  totLines : ℕ

namespace TextLog

variable {oText : TextBuffer}

/-- `s_nTextBufferLogMaxLines`. -/
def maxLines : ℕ := 2000

def new (oText : TextBuffer) : TextLog oText := ⟨oText.create, 0⟩

def eraseFirstLine (l : TextLog oText) : TextLog oText :=
  ⟨oText.eraseFirstLine l.buffer, l.totLines - 1⟩

def printStringToLog (sStr : ByteArray) (l : TextLog oText) : TextLog oText :=
  let l := if l.totLines ≥ maxLines then l.eraseFirstLine else l
  { buffer := oText.insertAtEnd (sStr ++ newlineBytes) l.buffer, totLines := l.totLines + 1 }

/-- A string is printed; nothing fails. -/
def step (l : TextLog oText) (sStr : ByteArray) : Except Empty (TextLog oText) :=
  .ok (l.printStringToLog sStr)

/-- The characters of the log. -/
def text (l : TextLog oText) : List Char := oText.text l.buffer

/-- The number of complete lines is the one that is counted, and is limited. -/
def Bounded (l : TextLog oText) : Prop :=
  lineCount l.text = l.totLines ∧ lineCount l.text ≤ maxLines

/-- The string is a text without a line end inside. -/
def PrintsOneLine (sStr : ByteArray) : Prop := ∃ s, EncodesText sStr s ∧ SingleLine s

variable {l : TextLog oText} {sStr : ByteArray}

/-- Room is made for a line. -/
theorem Bounded.makeRoom (h : l.Bounded) (hterminated : Terminated l.text) :
    let l' := if l.totLines ≥ maxLines then l.eraseFirstLine else l
    Terminated l'.text ∧ lineCount l'.text = l'.totLines ∧ l'.totLines < maxLines := by
  obtain ⟨hcount, hmax⟩ := h
  dsimp only
  split_ifs with hfull
  · have hpos : 0 < lineCount l.text := by
      rw [hcount]
      exact lt_of_lt_of_le (by decide) hfull
    have htext : l.eraseFirstLine.text = afterFirstLine l.text :=
      oText.text_eraseFirstLine l.buffer hpos
    have herase := lineCount_afterFirstLine hpos
    rw [htext]
    refine ⟨hterminated.suffix (afterFirstLine_suffix _), ?_, ?_⟩
    · simp only [eraseFirstLine]
      omega
    · simp only [eraseFirstLine]
      omega
  · exact ⟨hterminated, hcount, not_le.mp hfull⟩

/-- A text is appended with a newline; a string that is none leaves the log as it is. -/
theorem text_insertLine (oBuffer : oText.Buffer) (sStr : ByteArray) :
    (∃ s, EncodesText sStr s ∧ oText.text (oText.insertAtEnd (sStr ++ newlineBytes) oBuffer) =
      oText.text oBuffer ++ (s ++ ['\n'])) ∨
    ((¬ ∃ s, EncodesText sStr s) ∧
      oText.text (oText.insertAtEnd (sStr ++ newlineBytes) oBuffer) = oText.text oBuffer) := by
  by_cases hs : ∃ s, EncodesText sStr s
  · obtain ⟨s, hs⟩ := hs
    exact .inl ⟨s, hs,
      oText.text_insertAtEnd oBuffer (encodesText_append_newline.mpr ⟨s, rfl, hs⟩)⟩
  · refine .inr ⟨hs, congrArg oText.text (oText.insertAtEnd_refused oBuffer ?_)⟩
    rintro ⟨t, ht⟩
    obtain ⟨s, -, hencode⟩ := encodesText_append_newline.mp ht
    exact hs ⟨s, hencode⟩

/-- The counter stays right exactly if the string makes a single line. -/
theorem Bounded.printStringToLog_iff (h : l.Bounded) (hterminated : Terminated l.text) :
    (l.printStringToLog sStr).Bounded ↔ PrintsOneLine sStr := by
  obtain ⟨hterminated', hcount, hlt⟩ := h.makeRoom hterminated
  rw [Bounded, printStringToLog]
  dsimp only [text] at *
  rcases text_insertLine (if l.totLines ≥ maxLines then l.eraseFirstLine else l).buffer sStr with
    ⟨s, hs, htext⟩ | ⟨hs, htext⟩
  · have hone : PrintsOneLine sStr ↔ lineCount (s ++ ['\n']) = 1 := by
      rw [lineCount_concat_newline_eq_one]
      exact ⟨fun ⟨t, ht, hsingle⟩ => hs.unique ht ▸ hsingle, fun hsingle => ⟨s, hs, hsingle⟩⟩
    rw [hone, htext, lineCount_append hterminated', hcount]
    omega
  · have hnot : ¬ PrintsOneLine sStr := fun ⟨s, hencode, _⟩ => hs ⟨s, hencode⟩
    rw [htext, hcount]
    exact iff_of_false (fun hb => Nat.succ_ne_self _ hb.1.symm) hnot

theorem terminated_printStringToLog (hterminated : Terminated l.text) (h : l.Bounded) :
    Terminated (l.printStringToLog sStr).text := by
  rw [text, printStringToLog]
  dsimp only
  rcases text_insertLine (if l.totLines ≥ maxLines then l.eraseFirstLine else l).buffer sStr with
    ⟨s, -, htext⟩ | ⟨-, htext⟩
  · rw [htext, ← List.append_assoc]
    exact terminated_concat_newline _
  · rw [htext]
    exact (h.makeRoom hterminated).1

/-- **The log is bounded**, whatever is printed to it, exactly if every printed string is a text
without a line end inside. -/
theorem boundedLog_iff (oText : TextBuffer) (aStr : List ByteArray) :
    Run.Always step Bounded (new oText) aStr ↔ ∀ sStr ∈ aStr, PrintsOneLine sStr := by
  have hrun : ∀ l : TextLog oText, l.Bounded → Terminated l.text →
      (Run.Always step Bounded l aStr ↔ ∀ sStr ∈ aStr, PrintsOneLine sStr) := by
    induction aStr with
    | nil => exact fun l h _ => iff_of_true h (by simp)
    | cons sStr aStr ih =>
      intro l h hterminated
      rw [List.forall_mem_cons, ← h.printStringToLog_iff hterminated]
      have hterminated' : Terminated (l.printStringToLog sStr).text :=
        terminated_printStringToLog hterminated h
      constructor
      · rintro ⟨-, hnext⟩
        have hrest := hnext _ rfl
        exact ⟨hrest.head, (ih _ hrest.head hterminated').mp hrest⟩
      · rintro ⟨hbounded, hrest⟩
        refine ⟨h, ?_⟩
        rintro _ ⟨⟩
        exact (ih _ hbounded hterminated').mpr hrest
  refine hrun (new oText) ⟨?_, ?_⟩ ?_ <;> simp [text, new, oText.text_create]

end TextLog

namespace TextBuffer

/-- A text buffer that holds its characters. -/
def gtk : TextBuffer where
  Buffer := List Char
  create := []
  text := id
  insertAtEnd aByte s := s ++ (decodeText aByte).getD []
  eraseFirstLine := afterFirstLine
  text_create := rfl
  text_insertAtEnd s aByte t h := by
    rw [decodeText_eq_some_iff.mpr h]
    rfl
  insertAtEnd_refused s aByte h := by
    cases hdecode : decodeText aByte with
    | none => exact List.append_nil s
    | some t => exact absurd ⟨t, decodeText_eq_some_iff.mp hdecode⟩ h
  text_eraseFirstLine _ _ := rfl

end TextBuffer

/-- The message on a refresh that takes too long makes two lines, but counts as one. -/
theorem TextLog.not_bounded_hungRefresh :
    ¬ Run.Always step Bounded (new .gtk) [("Refreshing: " ++
      "Refresh takes too long: hci driver error\nPlease restart the application.").toUTF8] := by
  intro h
  have hbounded : (new .gtk).Bounded := h.1
  obtain ⟨s, hs, hsingle⟩ := (hbounded.printStringToLog_iff terminated_nil).mp (h.2 _ rfl)
  rw [hs.unique ⟨String.utf8Encode_toList, by decide⟩] at hsingle
  revert hsingle
  decide

end StmmInputBt
