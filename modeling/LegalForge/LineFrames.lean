import Mathlib

/-! Messages on a stream, each followed by a mark that ends it. A reader takes what
stands before each mark, and waits with the rest. -/
namespace LegalForge.LineFrames

variable {α : Type*} [DecidableEq α]

omit [DecidableEq α] in
/-- Every message followed by the mark. -/
def encode (mark : α) (messages : List (List α)) : List α :=
  messages.flatMap (fun message => message++[mark])

/-- The lines that have arrived whole, `line` being the part before. -/
def complete (mark : α) (line : List α) : List α → List (List α)
  | [] => []
  | c :: rest => if c = mark then line :: complete mark [] rest else complete mark (line++[c]) rest

variable {mark : α}

theorem complete_append_mark {line message : List α} (h : mark ∉ message) (rest : List α) :
    complete mark line (message++mark :: rest) = (line++message) :: complete mark [] rest := by
  induction message generalizing line with
  | nil => rw [List.nil_append, complete, if_pos rfl, List.append_nil]
  | cons c message ih =>
    obtain ⟨hc, hmessage⟩ := List.ne_and_not_mem_of_not_mem_cons h
    rw [List.cons_append, complete, if_neg (Ne.symm hc), ih hmessage, List.append_assoc,
      List.singleton_append]

/-- The reader gets back what was sent. -/
theorem complete_encode {messages : List (List α)} (h : ∀ message ∈ messages, mark ∉ message) :
    complete mark [] (encode mark messages) = messages := by
  induction messages with
  | nil => rfl
  | cons message messages ih =>
    obtain ⟨hmessage, hrest⟩ := List.forall_mem_cons.mp h
    rw [encode, List.flatMap_cons, List.append_assoc, List.singleton_append,
      complete_append_mark hmessage, List.nil_append]
    exact congrArg (message :: ·) (ih hrest)

/-- What has arrived so far is never taken back. -/
theorem complete_mono (line : List α) {received sent : List α} (h : received <+: sent) :
    complete mark line received <+: complete mark line sent := by
  obtain ⟨rest, rfl⟩ := h
  induction received generalizing line with
  | nil => exact List.nil_prefix
  | cons c received ih =>
    rw [List.cons_append, complete, complete]
    by_cases hc : c = mark
    · rw [if_pos hc, if_pos hc]
      exact List.prefix_cons_inj _ |>.mpr (ih [])
    · rw [if_neg hc, if_neg hc]
      exact ih (line++[c])

/-- Of a stream that breaks off, the reader has the first messages. -/
theorem complete_prefix {messages : List (List α)} {received : List α}
    (h : ∀ message ∈ messages, mark ∉ message) (hreceived : received <+: encode mark messages) :
    complete mark [] received <+: messages := by
  rw [← complete_encode h]
  exact complete_mono [] hreceived

end LegalForge.LineFrames
