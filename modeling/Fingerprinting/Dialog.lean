/-
# Dialogs

A scan is an exchange of requests and replies with a peer, and what it asks next depends on the
replies so far. A `Dialog` is the tree of all such exchanges: it is done, or asks a request and goes
on with each reply.

`Dialog.run` plays a dialog against a peer with a state and keeps a record of the requests, so that
what is sent can be reasoned about apart from any transport.
-/

namespace Fingerprinting

/-- An exchange of requests and replies that ends in a result. -/
inductive Dialog (Request Reply α : Type) where
  | done (a : α)
  | ask (request : Request) (next : Reply → Dialog Request Reply α)

namespace Dialog

variable {Request Reply α β : Type}

/-- Continue a dialog when it is done. -/
def bind : Dialog Request Reply α → (α → Dialog Request Reply β) → Dialog Request Reply β
  | .done a, f => f a
  | .ask request next, f => .ask request fun reply => (next reply).bind f

instance : Monad (Dialog Request Reply) where
  pure := .done
  bind := bind

/-- The dialog that sends one request and answers the reply. -/
def send (request : Request) : Dialog Request Reply Reply := .ask request .done

@[simp] theorem done_bind (a : α) (f : α → Dialog Request Reply β) : bind (.done a) f = f a := rfl

@[simp] theorem ask_bind (request : Request) (next : Reply → Dialog Request Reply α)
    (f : α → Dialog Request Reply β) :
    bind (.ask request next) f = .ask request fun reply => (next reply).bind f := rfl

/-- Write every request in other words, and read every reply back. -/
def via {Request' Reply' : Type} (request : Request → Request') (reply : Reply' → Reply) :
    Dialog Request Reply α → Dialog Request' Reply' α
  | .done a => .done a
  | .ask r next => .ask (request r) fun answer => (next (reply answer)).via request reply

/-- Answer every request by a dialog of another kind. -/
def refine {Request' Reply' : Type} (answer : Request → Dialog Request' Reply' Reply) :
    Dialog Request Reply α → Dialog Request' Reply' α
  | .done a => .done a
  | .ask r next => (answer r).bind fun reply => (next reply).refine answer

/-! ## Running -/

/-- A peer that answers requests; its state may depend on all of them. -/
structure Peer (Request Reply σ : Type) where
  answer : σ → Request → Reply × σ

/-- What a run leaves: the result, the requests in order, and the state of the peer. -/
structure Outcome (Request σ α : Type) where
  result : α
  sent : List Request
  state : σ

/-- Play a dialog against a peer. -/
def run {σ : Type} (peer : Peer Request Reply σ) (s : σ) :
    Dialog Request Reply α → Outcome Request σ α
  | .done a => ⟨a, [], s⟩
  | .ask request next =>
      let (reply, s) := peer.answer s request
      let rest := (next reply).run peer s
      ⟨rest.result, request :: rest.sent, rest.state⟩

@[simp] theorem run_done {σ : Type} (peer : Peer Request Reply σ) (s : σ) (a : α) :
    (Dialog.done a).run peer s = ⟨a, [], s⟩ := rfl

/-- A dialog that goes on sends what its parts send, one after the other. -/
theorem run_bind {σ : Type} (peer : Peer Request Reply σ) (s : σ) (d : Dialog Request Reply α)
    (f : α → Dialog Request Reply β) :
    (d.bind f).run peer s =
      let first := d.run peer s
      let second := (f first.result).run peer first.state
      ⟨second.result, first.sent ++ second.sent, second.state⟩ := by
  induction d generalizing s with
  | done a => rfl
  | ask request next ih => simp [run, ih]

end Dialog

end Fingerprinting
