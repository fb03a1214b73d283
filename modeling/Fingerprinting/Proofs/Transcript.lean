/-
# Transcripts of dialogs

A transcript is what passes between a dialog and its peer: the requests in order, each with its
reply.  `Dialog.Plays` says that a dialog can have a transcript and end with a result.  It leaves
the replies open, so what holds of every transcript holds of every peer.

* `plays_run` says that a run against a peer has a transcript, whose requests are those sent, and
  `exchanges_scripted` that every transcript is that of a run;
* `run_map` and `exchanges_map` say that the peer does not see what is made of a result;
* `plays_bind_iff` takes a transcript apart where one dialog goes on as another;
* `plays_of_via` reads a transcript back that is written in other words, and `plays_of_refine` one in
  which other dialogs stand for the requests.
-/
import Mathlib.Tactic.Common
import Fingerprinting.Dialog

namespace Fingerprinting.Dialog

variable {Request Reply α β σ : Type}

/-- Dialogs go on one after the other, in whatever way they are put together. -/
instance : LawfulMonad (Dialog Request Reply) := by
  refine LawfulMonad.mk' _ ?_ (fun _ _ => rfl) ?_
  · intro α d
    show d.bind .done = d
    induction d with
    | done a => rfl
    | ask request next ih => simp only [ask_bind, ih]
  · intro α β γ d f g
    show (d.bind f).bind g = d.bind fun a => (f a).bind g
    induction d with
    | done a => rfl
    | ask request next ih => simp only [ask_bind, ih]

/-! ## Transcripts -/

/-- A dialog exchanges some requests and replies and ends with a result. -/
inductive Plays : Dialog Request Reply α → List (Request × Reply) → α → Prop where
  | done (a : α) : Plays (.done a) [] a
  | ask {request : Request} {reply : Reply} {next : Reply → Dialog Request Reply α}
      {log : List (Request × Reply)} {a : α} (h : Plays (next reply) log a) :
      Plays (.ask request next) ((request, reply) :: log) a

/-- The requests and replies of a run against a peer. -/
def exchanges (peer : Peer Request Reply σ) (s : σ) :
    Dialog Request Reply α → List (Request × Reply)
  | .done _ => []
  | .ask request next =>
      let (reply, s) := peer.answer s request
      (request, reply) :: (next reply).exchanges peer s

/-- The requests of a run are those that it sends. -/
theorem map_fst_exchanges (peer : Peer Request Reply σ) (s : σ) (d : Dialog Request Reply α) :
    (d.exchanges peer s).map Prod.fst = (d.run peer s).sent := by
  induction d generalizing s with
  | done a => rfl
  | ask request next ih =>
      rw [exchanges, run, List.map_cons]
      exact congrArg (request :: ·) (ih _ _)

/-- A run against a peer is a transcript. -/
theorem plays_run (peer : Peer Request Reply σ) (s : σ) (d : Dialog Request Reply α) :
    d.Plays (d.exchanges peer s) (d.run peer s).result := by
  induction d generalizing s with
  | done a => exact .done a
  | ask request next ih => exact .ask (ih _ _)

/-- A peer that gives some replies one after the other, and then one and the same for ever. -/
def scripted (last : Reply) : Peer Request Reply (List Reply) where
  answer replies _ :=
    match replies with
    | [] => (last, [])
    | reply :: rest => (reply, rest)

/-- Every transcript is that of a run, against the peer that gives its replies. -/
theorem exchanges_scripted (last : Reply) {d : Dialog Request Reply α}
    {log : List (Request × Reply)} {a : α} (h : d.Plays log a) :
    d.exchanges (scripted last) (log.map Prod.snd) = log := by
  induction h with
  | done a => rfl
  | ask h ih => exact congrArg (_ :: ·) ih

/-- Every result is that of a run, against the peer that gives the replies which lead to it. -/
theorem result_scripted (last : Reply) {d : Dialog Request Reply α} {log : List (Request × Reply)}
    {a : α} (h : d.Plays log a) : (d.run (scripted last) (log.map Prod.snd)).result = a := by
  induction h with
  | done a => rfl
  | ask h ih => exact ih

/-- A run that begins with a request goes on with the reply of the peer. -/
theorem run_send_bind (peer : Peer Request Reply σ) (s : σ) (request : Request)
    (f : Reply → Dialog Request Reply α) :
    (send request >>= f).run peer s =
      let rest := (f (peer.answer s request).1).run peer (peer.answer s request).2
      ⟨rest.result, request :: rest.sent, rest.state⟩ := rfl

@[simp] theorem run_pure (peer : Peer Request Reply σ) (s : σ) (a : α) :
    (pure a : Dialog Request Reply α).run peer s = ⟨a, [], s⟩ := rfl

/-- A run goes on, from the state in which its first part has left the peer. -/
theorem run_andThen (peer : Peer Request Reply σ) (s : σ) (d : Dialog Request Reply α)
    (f : α → Dialog Request Reply β) :
    (d >>= f).run peer s =
      let first := d.run peer s
      let second := (f first.result).run peer first.state
      ⟨second.result, first.sent ++ second.sent, second.state⟩ :=
  run_bind peer s d f

/-! ## Results in other words -/

/-- A dialog whose result is read in another way is played as before. -/
theorem run_map (peer : Peer Request Reply σ) (s : σ) (f : α → β) (d : Dialog Request Reply α) :
    (f <$> d).run peer s =
      ⟨f (d.run peer s).result, (d.run peer s).sent, (d.run peer s).state⟩ := by
  show (d.bind fun a => .done (f a)).run peer s = _
  rw [run_bind]
  simp

theorem exchanges_map (peer : Peer Request Reply σ) (s : σ) (f : α → β)
    (d : Dialog Request Reply α) : (f <$> d).exchanges peer s = d.exchanges peer s := by
  show (d.bind fun a => .done (f a)).exchanges peer s = _
  induction d generalizing s with
  | done a => rfl
  | ask request next ih => exact congrArg (_ :: ·) (ih _ _)

/-! ## Taking transcripts apart -/

/-- A dialog that is done exchanges nothing. -/
@[simp] theorem plays_done_iff (a b : α) (log : List (Request × Reply)) :
    Plays (.done a) log b ↔ log = [] ∧ b = a := by
  constructor
  · intro h
    cases h
    exact ⟨rfl, rfl⟩
  · rintro ⟨rfl, rfl⟩
    exact .done b

@[simp] theorem plays_pure_iff (a b : α) (log : List (Request × Reply)) :
    Plays (pure a : Dialog Request Reply α) log b ↔ log = [] ∧ b = a :=
  plays_done_iff a b log

/-- A dialog that asks goes on with some reply. -/
theorem plays_ask_iff (request : Request) (next : Reply → Dialog Request Reply α)
    (log : List (Request × Reply)) (a : α) :
    Plays (.ask request next) log a ↔
      ∃ reply rest, log = (request, reply) :: rest ∧ (next reply).Plays rest a := by
  constructor
  · intro h
    cases h with
    | ask h => exact ⟨_, _, rfl, h⟩
  · rintro ⟨reply, rest, rfl, h⟩
    exact .ask h

/-- A dialog that asks once is answered once. -/
@[simp] theorem plays_send_iff (request : Request) (log : List (Request × Reply)) (reply : Reply) :
    (send request : Dialog Request Reply Reply).Plays log reply ↔ log = [(request, reply)] := by
  rw [send, plays_ask_iff]
  simp only [plays_done_iff]
  constructor
  · rintro ⟨answer, rest, rfl, rfl, rfl⟩
    rfl
  · rintro rfl
    exact ⟨reply, [], rfl, rfl, rfl⟩

/-- Where one dialog goes on as another, its transcript is that of the one and then that of the
other. -/
theorem plays_bind_iff (d : Dialog Request Reply α) (f : α → Dialog Request Reply β)
    (log : List (Request × Reply)) (b : β) :
    Plays (d >>= f) log b ↔
      ∃ first rest a, log = first ++ rest ∧ d.Plays first a ∧ (f a).Plays rest b := by
  show Plays (d.bind f) log b ↔ _
  induction d generalizing log with
  | done a =>
      rw [done_bind]
      constructor
      · intro h
        exact ⟨[], log, a, rfl, .done a, h⟩
      · rintro ⟨first, rest, a', rfl, hfirst, hrest⟩
        obtain ⟨rfl, rfl⟩ := (plays_done_iff a a' first).mp hfirst
        exact hrest
  | ask request next ih =>
      rw [ask_bind, plays_ask_iff]
      constructor
      · rintro ⟨reply, log, rfl, h⟩
        obtain ⟨first, rest, a, rfl, hfirst, hrest⟩ := (ih reply log).mp h
        exact ⟨_, rest, a, rfl, .ask hfirst, hrest⟩
      · rintro ⟨first, rest, a, rfl, hfirst, hrest⟩
        obtain ⟨reply, more, rfl, hnext⟩ := (plays_ask_iff request next first a).mp hfirst
        exact ⟨reply, more ++ rest, rfl, (ih reply _).mpr ⟨more, rest, a, rfl, hnext, hrest⟩⟩

/-- A dialog that asks once and answers what it makes of the reply. -/
theorem plays_send_bind_pure_iff (request : Request) (f : Reply → α) (log : List (Request × Reply))
    (a : α) :
    Plays (send request >>= fun reply => pure (f reply)) log a ↔
      ∃ reply, log = [(request, reply)] ∧ a = f reply := by
  rw [plays_bind_iff]
  constructor
  · rintro ⟨first, rest, reply, rfl, hfirst, hrest⟩
    obtain ⟨rfl, rfl⟩ := (plays_pure_iff _ _ rest).mp hrest
    rw [(plays_send_iff _ first reply).mp hfirst]
    exact ⟨reply, rfl, rfl⟩
  · rintro ⟨reply, rfl, rfl⟩
    exact ⟨[(request, reply)], [], reply, rfl, .ask (.done reply), .done _⟩

/-- A dialog in other words asks what the dialog asks. -/
theorem plays_of_via {Request' Reply' : Type} (write : Request → Request') (read : Reply' → Reply)
    (d : Dialog Request Reply α) (log : List (Request' × Reply')) (a : α)
    (h : (d.via write read).Plays log a) :
    ∃ inner, d.Plays inner a ∧ log.map Prod.fst = (inner.map Prod.fst).map write := by
  induction d generalizing log with
  | done b =>
      obtain ⟨rfl, rfl⟩ := (plays_done_iff b a log).mp h
      exact ⟨[], .done a, rfl⟩
  | ask request next ih =>
      obtain ⟨reply, rest, rfl, hrest⟩ := (plays_ask_iff _ _ log a).mp h
      obtain ⟨inner, hinner, hsent⟩ := ih (read reply) rest hrest
      refine ⟨(request, read reply) :: inner, .ask hinner, ?_⟩
      rw [List.map_cons, List.map_cons, List.map_cons, hsent]

/-- A dialog whose requests are answered by other dialogs exchanges what those exchange, one after the
other. -/
theorem plays_of_refine {Request' Reply' : Type} (answer : Request → Dialog Request' Reply' Reply)
    (d : Dialog Request Reply α) (log : List (Request' × Reply')) (a : α)
    (h : (d.refine answer).Plays log a) :
    ∃ parts : List ((Request × Reply) × List (Request' × Reply')),
      d.Plays (parts.map Prod.fst) a ∧ log = parts.flatMap Prod.snd ∧
      ∀ part ∈ parts, (answer part.1.1).Plays part.2 part.1.2 := by
  induction d generalizing log with
  | done b =>
      obtain ⟨rfl, rfl⟩ := (plays_done_iff b a log).mp h
      exact ⟨[], .done a, rfl, List.forall_mem_nil _⟩
  | ask request next ih =>
      obtain ⟨first, rest, reply, rfl, hfirst, hrest⟩ := (plays_bind_iff _ _ log a).mp h
      obtain ⟨parts, hplays, rfl, hparts⟩ := ih reply rest hrest
      exact ⟨((request, reply), first) :: parts, .ask hplays, rfl,
        List.forall_mem_cons.mpr ⟨hfirst, hparts⟩⟩

end Fingerprinting.Dialog
