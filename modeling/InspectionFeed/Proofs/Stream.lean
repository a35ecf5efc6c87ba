/-
What writing a line does to a stream, whatever fails: the line is on the
stream unless its write failed (`lines_putLine`), and nothing else of the
text changes. On a stream on which nothing will fail any more, a line is
always written and flushed.
-/
import InspectionFeed.Stream

namespace InspectionFeed.Stream

/-- A new stream, with the fate of its writes and that of its flushes. -/
def planned (writes flushes : List Bool) : Stream := ⟨[], 0, writes, flushes⟩

/-- A line is on the stream, as what its writing gave tells: a failed flush leaves it there. -/
def landed {α : Type} : Except Fault α → Bool
  | .error .write => false
  | .error .flush => true
  | .ok _ => true

theorem written_flush (s : Stream) : s.flush.1.written = s.written := by
  unfold flush
  split <;> rfl

theorem landed_flush (s : Stream) : landed s.flush.2 = true := by
  unfold flush
  split <;> rfl

theorem lines_putLine (s : Stream) (line : String) :
    (s.putLine line).1.lines =
      s.lines ++ if landed (s.putLine line).2 then [line] else [] := by
  unfold putLine
  split
  · simp [landed, lines]
  · simp [landed_flush, lines, written_flush]

theorem Reliable.flush {s : Stream} (h : s.Reliable) :
    s.flush.2 = .ok () ∧ s.flush.1.Reliable := by
  obtain ⟨hw, hf⟩ := h
  unfold Stream.flush
  split
  next hd => exact absurd (hf true (List.mem_of_head? hd)) (by decide)
  next => exact ⟨rfl, hw, fun b hb => hf b (List.mem_of_mem_tail hb)⟩

/-- Where nothing will fail any more, a line is written and flushed, and still nothing will. -/
theorem Reliable.putLine {s : Stream} (h : s.Reliable) (line : String) :
    (s.putLine line).2 = .ok () ∧ (s.putLine line).1.Reliable := by
  unfold Stream.putLine
  split
  next hd => exact absurd (h.1 true (List.mem_of_head? hd)) (by decide)
  next =>
    exact Reliable.flush ⟨fun b hb => h.1 b (List.mem_of_mem_tail hb), h.2⟩

/-- Lines that hold no line feed are what a text of them is split into. -/
theorem splitOn_textOf : ∀ {ls : List String}, (∀ l ∈ ls, '\n' ∉ l.toList) →
    (textOf ls).toList.splitOn '\n' = ls.map String.toList ++ [[]]
  | [], _ => rfl
  | l :: ls, h => by
    have hl : '\n' ∉ l.toList := h l (by simp)
    have ih := splitOn_textOf fun l' hl' => h l' (List.mem_cons_of_mem _ hl')
    have htext : (textOf (l :: ls)).toList = l.toList ++ '\n' :: (textOf ls).toList := by
      simp [textOf]
    rw [htext, List.splitOn_append_cons_self_of_not_mem hl, ih]
    rfl

theorem reliable_empty : empty.Reliable := ⟨by simp [empty], by simp [empty]⟩

end InspectionFeed.Stream
