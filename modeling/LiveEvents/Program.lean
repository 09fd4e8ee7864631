/-!
# Programs that ask

A program ends with a result, or asks a question and goes on with the answer. What is asked and
which answers are possible is left open, so that one program can be run against every world
that answers its questions.
-/

namespace LiveEvents

inductive Program (Question : Type) (Answer : Question → Type) (α : Type) where
  | done (result : α)
  | ask (question : Question) (next : Answer question → Program Question Answer α)

namespace Program

variable {Question : Type} {Answer : Question → Type} {α β σ : Type}

def bind (f : α → Program Question Answer β) :
    Program Question Answer α → Program Question Answer β
  | done a => f a
  | ask q next => ask q fun r => bind f (next r)

instance : Monad (Program Question Answer) where
  pure := done
  bind p f := bind f p

def question (q : Question) : Program Question Answer (Answer q) :=
  ask q done

def runWith (answer : (q : Question) → σ → Answer q × σ) :
    Program Question Answer α → σ → α × σ
  | done a, world => (a, world)
  | ask q next, world =>
    let (r, world) := answer q world
    runWith answer (next r) world

end Program

end LiveEvents
