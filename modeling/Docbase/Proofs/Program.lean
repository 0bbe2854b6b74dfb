import Docbase.Proofs.Agreement
import Docbase.Script.Basic

/-! # Programs of a host

A program calls a host, its sessions and its transactions, and decides after every call how to go
on from the outcome: a fault may be passed on, caught, or answered by other calls.
-/

namespace Docbase.Script

open Effect

/-- A program over the calls of a host. -/
inductive Program (ω : Type) where
  /-- To end with an outcome. -/
  | finish (outcome : Except Fault Value)
  /-- To call the host, and to go on from the outcome. -/
  | call (op : ω) (next : Except Fault Reply → Program ω)
  /-- To call the session of a number, and to go on from the outcome. -/
  | session (number : Nat) (request : SessionCall) (next : Except Fault Session → Program ω)
  /-- To attempt a transaction, whose work is given the number of its session, and to go on from
  what comes out of it. -/
  | transaction (work : Nat → Program ω) (next : Except Fault Value → Program ω)

namespace Program

variable {σ σ' τ τ' ω : Type}

/-- Runs a program on a host. -/
def run (host : Host σ τ ω) : Program ω → Effect σ Value
  | finish outcome => Effect.ofExcept outcome
  | call op next => (host.call op).outcome >>= fun reply => (next reply).run host
  | session number request next =>
    (host.callSession number request).outcome >>= fun reply => (next reply).run host
  | transaction work next =>
    (Effect.bracket host.begin (fun token => (work (host.sessionOf token)).run host)
      host.conclude).outcome >>= fun outcome => (next outcome).run host

/-- The program whose attempts of transactions are refused at once, as they are while another
transaction is in flight. -/
def withoutTransactions : Program ω → Program ω
  | finish outcome => finish outcome
  | call op next => call op fun reply => (next reply).withoutTransactions
  | session number request next =>
    session number request fun reply => (next reply).withoutTransactions
  | transaction _ next => (next (.error (.session .nested))).withoutTransactions

/-- A program makes no other calls than those allowed. Nothing is asked of the work of the
transactions that it attempts. -/
def Makes (mayCall : ω → Prop) (mayCallSession : Nat → SessionCall → Prop) : Program ω → Prop
  | finish _ => True
  | call op next => mayCall op ∧ ∀ reply, (next reply).Makes mayCall mayCallSession
  | session number request next =>
    mayCallSession number request ∧ ∀ reply, (next reply).Makes mayCall mayCallSession
  | transaction _ next => ∀ outcome, (next outcome).Makes mayCall mayCallSession

/-! ## What holds of every run -/

section

variable {host : Host σ τ ω} {R : σ → σ → Prop}

/-- A relation that every call and every transaction stays within is one that programs stay
within. -/
theorem run_within (hrefl : ∀ s, R s s) (htrans : ∀ s t u, R s t → R t u → R s u)
    (hcall : ∀ op, Within R (host.call op))
    (hsession : ∀ number call, Within R (host.callSession number call))
    (htransaction : ∀ work : τ → Effect σ Value, (∀ token, Within R (work token)) →
      Within R (Effect.bracket host.begin work host.conclude))
    (program : Program ω) : Within R (program.run host) := by
  induction program with
  | finish outcome => exact hrefl
  | call op next ih => exact Within.bind htrans (hcall op).outcome ih
  | session number request next ih => exact Within.bind htrans (hsession number request).outcome ih
  | transaction work next ihwork ihnext =>
      refine Within.bind htrans ?_ ihnext
      exact (htransaction _ fun token => ihwork (host.sessionOf token)).outcome

/-- A property that every operation of a host keeps is one that programs keep. -/
theorem run_keeps {I : σ → Prop} (hcall : ∀ op, Keeps I (host.call op))
    (hsession : ∀ number call, Keeps I (host.callSession number call))
    (hbegin : Keeps I host.begin)
    (hconclude : ∀ token outcome, Keeps I (host.conclude token outcome))
    (program : Program ω) : Keeps I (program.run host) := by
  refine run_within (R := fun s t => I s → I t) (fun _ h => h) (fun _ _ _ h h' hs => h' (h hs))
    hcall hsession (fun work hwork => ?_) program
  exact Keeps.bind hbegin fun token => Keeps.bind (Keeps.outcome (hwork token)) (hconclude token)

end

/-- On hosts whose calls agree, a program in flight agrees with the program whose attempts of
transactions are refused at once. -/
theorem run_agrees {host : Host σ τ ω} {host' : Host σ' τ' ω} {R : σ → σ' → Prop}
    {mayCall : ω → Prop} {mayCallSession : Nat → SessionCall → Prop}
    (hcall : ∀ op, mayCall op → Agrees R (host.call op) (host'.call op))
    (hsession : ∀ number call, mayCallSession number call →
      Agrees R (host.callSession number call) (host'.callSession number call))
    (hrefused : ∀ s t, R s t → host.begin.apply s = (.error (.session .nested), s))
    (program : Program ω) (hmakes : program.Makes mayCall mayCallSession) :
    Agrees R (program.run host) (program.withoutTransactions.run host') := by
  induction program with
  | finish outcome => exact Agrees.ofExcept outcome
  | call op next ih =>
      exact (hcall op hmakes.1).outcome.bind fun reply => ih reply (hmakes.2 reply)
  | session number request next ih =>
      exact (hsession number request hmakes.1).outcome.bind fun reply => ih reply (hmakes.2 reply)
  | transaction work next _ ih =>
      -- The work is never run, so the induction hypothesis about it is not needed.
      intro s t hst
      have hattempt : (Effect.bracket host.begin
          (fun token => (work (host.sessionOf token)).run host) host.conclude).apply s =
            (.error (.session .nested), s) := by
        rw [Effect.bracket, apply_bind, hrefused s t hst]
      have hnext := ih (.error (.session .nested)) (hmakes _) s t hst
      unfold AgreesAt at hnext ⊢
      rw [run, apply_bind, apply_outcome, hattempt]
      exact hnext

end Program

/-- A state of a host is reachable when some program leads to it from a state to start from. -/
def Host.Reachable {σ τ ω : Type} (host : Host σ τ ω) (start : σ → Prop) (s : σ) : Prop :=
  ∃ first program, start first ∧ s = ((Program.run host program).apply first).2

section

variable {σ τ ω : Type} {host : Host σ τ ω}

/-- The program that makes calls in turn, whatever comes of them. -/
def Program.making : List ω → Program ω
  | [] => finish (.ok .null)
  | op :: rest => call op fun _ => making rest

theorem Program.run_making (ops : List ω) (s : σ) :
    ((Program.run host (making ops)).apply s).2 = (attemptAll host.call ops s).2 := by
  induction ops generalizing s with
  | nil => rfl
  | cons op rest ih =>
      rw [making, run, apply_bind, apply_outcome]
      exact ih _

/-- What calls in turn lead to is reachable. -/
theorem Host.reachable_attemptAll {start : σ → Prop} {first : σ} (hfirst : start first)
    (ops : List ω) : host.Reachable start (attemptAll host.call ops first).2 :=
  ⟨first, .making ops, hfirst, (Program.run_making ops first).symm⟩

end

/-- The states that programs pass through on the way: those to start from, and those that any call
of the host or of a session and any beginning or end of a transaction leads to from there. A state
in the midst of a transaction is one of them. -/
inductive Host.Passes {σ τ ω : Type} (host : Host σ τ ω) (start : σ → Prop) : σ → Prop
  | start {s : σ} (h : start s) : Passes host start s
  | call {s : σ} (h : Passes host start s) (op : ω) : Passes host start ((host.call op).apply s).2
  | session {s : σ} (h : Passes host start s) (number : Nat) (request : SessionCall) :
      Passes host start ((host.callSession number request).apply s).2
  | begin {s : σ} (h : Passes host start s) : Passes host start (host.begin.apply s).2
  | conclude {s : σ} (h : Passes host start s) (token : τ) (outcome : Except Fault Value) :
      Passes host start ((host.conclude token outcome).apply s).2

namespace Host.Passes

variable {σ τ ω : Type} {host : Host σ τ ω} {start : σ → Prop} {s : σ}

/-- From a state that is passed through, a program leads to another one. -/
theorem run (h : host.Passes start s) (program : Program ω) :
    host.Passes start ((program.run host).apply s).2 :=
  Program.run_keeps (fun op _ h => h.call op) (fun number request _ h => h.session number request)
    (fun _ h => h.begin) (fun token outcome _ h => h.conclude token outcome) program s h

/-- What a program leads to is passed through at its end. -/
theorem of_reachable (h : host.Reachable start s) : host.Passes start s := by
  obtain ⟨first, program, hfirst, rfl⟩ := h
  exact (Passes.start hfirst).run program

/-- A property of the states to start from that every step keeps holds of all states passed
through. -/
theorem holds {I : σ → Prop} (hstart : ∀ s, start s → I s) (hcall : ∀ op, Keeps I (host.call op))
    (hsession : ∀ number request, Keeps I (host.callSession number request))
    (hbegin : Keeps I host.begin)
    (hconclude : ∀ token outcome, Keeps I (host.conclude token outcome))
    (h : host.Passes start s) : I s := by
  induction h with
  | start h => exact hstart _ h
  | call _ op ih => exact hcall op _ ih
  | session _ number request ih => exact hsession number request _ ih
  | begin _ ih => exact hbegin _ ih
  | conclude _ token outcome ih => exact hconclude token outcome _ ih

end Host.Passes

end Docbase.Script
