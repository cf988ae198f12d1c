import TransportConverter.Client.ReadOpts

/-! The two readers of a reply: `_read_convert` of the library, `read_convert_opts` of the utilities. -/

namespace TransportConverter.Client

open Foundations.Memory Wire Codec

def OptsAnswers.within (b : OptsAnswers) (a : Answers) : Answers :=
  { a with malloc := b.malloc, header := b.header, area := b.area }

/-- Both take the reply or both turn it down, and leave the same octets unread. A header that stands `alone`
is one of its own: the library takes it, the caller of the other is told no error and gets a pointer that
was never assigned. -/
inductive Agrees (fd : ℤ) (alone : Prop) : Option (Outcome ℤ) → Option OptsOutcome → Prop
  | unfinished : Agrees fd alone none none
  | undefined : Agrees fd alone (some .undefined) (some .undefined)
  | taken {s : Library} {t : OptsCaller} (opts : ConvertOpts) (hmore : ¬ alone)
      (hcode : t.errorCode = 0) (hinbox : s.inbox fd = t.inbox) :
      Agrees fd alone (some (.returns syscallRun s)) (some (.returns (.fresh opts) t))
  | unassigned {s : Library} {t : OptsCaller} (halone : alone) (hcode : t.errorCode = 0)
      (hinbox : s.inbox fd = t.inbox) :
      Agrees fd alone (some (.returns syscallRun s)) (some (.returns .indeterminate t))
  | turnedDown {s : Library} {t : OptsCaller} (hinbox : s.inbox fd = t.inbox) :
      Agrees fd alone (some (.returns syscallSkip s)) (some (.returns .null t))

section Agreement

variable {a : Answers} {b : OptsAnswers} {fuel : ℕ} {peek : Bool} {fd : ℤ} {s : Library}
  {t : OptsCaller} {alone : Prop}

end Agreement

end TransportConverter.Client
