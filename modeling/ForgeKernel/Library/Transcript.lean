import Mathlib.Data.List.Forall2
import Mathlib.Data.List.Infix

/-!
# Transcripts of a question and answer session

A party opens with a fixed text and then answers the requests that it takes, one
after another, symbol by symbol.  A transcript says how far it has come: what it has
sent is the opening and the answers to all requests taken so far, in order, except for
the rest of the last one.
-/

namespace Transcripts

variable {ρ χ : Type*} {Answer Answer' : ρ → List χ → Prop} {opening : List χ}
  {requests : List ρ} {output rest : List χ}

/-- The symbols sent so far, and the part of the last answer still to be sent. -/
structure Transcript
    (Answer : ρ → List χ → Prop) (opening : List χ) (requests : List ρ)
    (output rest : List χ) : Prop where
  answered : ∃ answers, List.Forall₂ Answer requests answers ∧
    output ++ rest = opening ++ answers.flatten ∧ rest <:+ answers.getLastD opening

namespace Transcript

/-- Before any request only the opening is due. -/
theorem opens : Transcript Answer opening [] [] opening :=
  ⟨[], .nil, (List.append_nil opening).symm, List.suffix_rfl⟩

/-- A symbol that is sent is the next one due. -/
theorem sends
    {symbol : χ} (transcript : Transcript Answer opening requests output (symbol :: rest)) :
    Transcript Answer opening requests (output ++ [symbol]) rest := by
  obtain ⟨answers, answered, text, last⟩ := transcript.answered
  refine ⟨answers, answered, ?_, (List.suffix_cons symbol rest).trans last⟩
  rw [List.append_assoc]
  exact text

/-- A request is taken when the last answer is complete. -/
theorem takes
    (transcript : Transcript Answer opening requests output []) {request : ρ}
    {answer : List χ} (answers : Answer request answer) :
    Transcript Answer opening (requests ++ [request]) output answer := by
  obtain ⟨earlier, answered, text, _⟩ := transcript.answered
  refine ⟨earlier ++ [answer], List.rel_append answered (.cons answers .nil), ?_, ?_⟩
  · rw [List.append_nil] at text
    rw [text, List.flatten_append, List.flatten_singleton, List.append_assoc]
  · rw [List.getLastD_concat]

/-- A weaker relation between requests and answers has the same transcripts. -/
theorem mono
    (transcript : Transcript Answer opening requests output rest)
    (weaker : ∀ request answer, Answer request answer → Answer' request answer) :
    Transcript Answer' opening requests output rest := by
  obtain ⟨answers, answered, text, last⟩ := transcript.answered
  exact ⟨answers, answered.imp weaker, text, last⟩

end Transcript
end Transcripts
