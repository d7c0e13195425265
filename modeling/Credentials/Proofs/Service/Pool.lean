import Credentials.Proofs.Service.Phases
import Credentials.Service.Setup
import Mathlib.Logic.Function.Basic

/-!
# Clients over one binding

Clients build services on one shared binding and make requests to them, in any order and in between
each other's steps. A step of a client is the least that nobody can come in between of:

* it asks for the outcome of loading: it is given the outcome, if that is there; it loads, if nobody
  has begun to; it puts down what it has loaded; or it waits for the client that is loading;
* it acts on the outcome it was given, with one native call at most;
* it makes a request that does not ask for the outcome, or builds a service.

`Pool.run` lets clients take steps in the order of a schedule. A client that is alone gets from it what
`Service.run` says (`run_alone`).
-/

namespace Credentials

open Native

inductive Action (σ : Type) where
  /-- It builds a service on the shared binding. -/
  | build (u : Setup σ)
  | request (v : Service) (q : Request)

/-- Whether an action asks for the outcome of loading. -/
def Action.settles {σ : Type} : Action σ → Bool
  | .build _ => false
  | .request _ q => q.settles

structure Thread (σ : Type) where
  /-- The action it is at, and those after it. -/
  todo : List (Action σ)
  /-- The outcome of loading, once the action it is at was given it. -/
  given : Option (LoadState σ) := none

/-- A reply, with what was asked for. -/
structure Served (κ : Type) where
  client : κ
  service : Service
  request : Request
  reply : Reply Response

/-- Clients of type `κ` over one connection. -/
structure Pool (κ σ : Type) where
  connection : Connection (Image σ) σ
  threads : κ → Thread σ
  /-- The client that is loading, and what it has found but not put down. -/
  loading : Option (κ × LoadState σ) := none
  /-- The actions that steps were taken for, in order. -/
  taken : List (Action σ) := []
  /-- The outcomes that were given to actions, in order. -/
  given : List (LoadState σ) := []
  replies : List (Served κ) := []

/-- The connection after a service was built on its binding. The service is its client's. -/
def Connection.build {σ : Type} (c : Connection (Image σ) σ) (u : Setup σ) :
    Connection (Image σ) σ :=
  match { u with binding := some c.binding }.build c.world.system with
  | (.ok (_, binding), system) => ⟨binding, { c.world with system }⟩
  | (.error _, system) => { c with world := { c.world with system } }

namespace Pool

variable {κ σ : Type} [DecidableEq κ]

def start (c : Connection (Image σ) σ) (todo : κ → List (Action σ)) : Pool κ σ where
  connection := c
  threads k := ⟨todo k, none⟩

def put (p : Pool κ σ) (s : LoadState σ) : Pool κ σ :=
  { p with
    connection :=
      { p.connection with binding := { p.connection.binding with state := some s } }
    loading := none }

/-- A client asks for the outcome of loading. -/
def ask (p : Pool κ σ) (k : κ) : Pool κ σ :=
  match p.connection.binding.state, p.loading with
  | some s, _ =>
    { p with
      threads := Function.update p.threads k { p.threads k with given := some s }
      given := p.given ++ [s] }
  | none, none =>
    let (s, c) := p.connection.load
    { p with connection := { p.connection with world := c.world }, loading := some (k, s) }
  | none, some (j, s) => if j = k then p.put s else p

/-- A client goes on to its next action, with a connection. -/
def advance (p : Pool κ σ) (k : κ) (c : Connection (Image σ) σ) : Pool κ σ :=
  { p with
    connection := c
    threads := Function.update p.threads k ⟨(p.threads k).todo.tail, none⟩ }

def answer (p : Pool κ σ) (k : κ) (v : Service) (q : Request)
    (r : Reply Response × Connection (Image σ) σ) : Pool κ σ :=
  { p.advance k r.2 with replies := p.replies ++ [⟨k, v, q, r.1⟩] }

def act (p : Pool κ σ) (k : κ) : Action σ → Pool κ σ
  | .build u => p.advance k (Connection.build p.connection u)
  | .request v q =>
    match q.settles, (p.threads k).given with
    | false, _ => p.answer k v q (v.perform p.connection q)
    | true, none => p.ask k
    | true, some s => p.answer k v q (v.performIn s p.connection q)

theorem act_look (p : Pool κ σ) (k : κ) (v : Service) {q : Request} (hq : q.settles = false) :
    p.act k (.request v q) = p.answer k v q (v.perform p.connection q) := by
  simp only [act, hq]

theorem act_ask {p : Pool κ σ} {k : κ} {q : Request} (hq : q.settles = true)
    (h : (p.threads k).given = none) (v : Service) : p.act k (.request v q) = p.ask k := by
  simp only [act, hq, h]

theorem act_given {p : Pool κ σ} {k : κ} {q : Request} (hq : q.settles = true)
    {s : LoadState σ} (h : (p.threads k).given = some s) (v : Service) :
    p.act k (.request v q) = p.answer k v q (v.performIn s p.connection q) := by
  simp only [act, hq, h]

/-- Notes that a step was taken for an action. -/
def note (p : Pool κ σ) (a : Action σ) : Pool κ σ := { p with taken := p.taken ++ [a] }

/-- A step of a client. One that has nothing to do does nothing. -/
def step (p : Pool κ σ) (k : κ) : Pool κ σ :=
  match (p.threads k).todo with
  | [] => p
  | a :: _ => (p.act k a).note a

/-- Steps of clients in the order of a schedule. -/
def run (p : Pool κ σ) (schedule : List κ) : Pool κ σ := schedule.foldl step p

@[simp] theorem run_nil (p : Pool κ σ) : p.run [] = p := rfl

theorem run_cons (p : Pool κ σ) (k : κ) (schedule : List κ) :
    p.run (k :: schedule) = (p.step k).run schedule := rfl

theorem run_append (p : Pool κ σ) (before after : List κ) :
    p.run (before ++ after) = (p.run before).run after :=
  List.foldl_append

theorem step_request {p : Pool κ σ} {k : κ} (v : Service) (q : Request) (rest : List (Action σ))
    (h : (p.threads k).todo = .request v q :: rest) :
    p.step k = (p.act k (.request v q)).note (.request v q) := by
  unfold step
  rw [h]

/-- The request at the head was served: its client is at the next action, with the connection and the
reply that the request comes to on its own. -/
structure ServedAlone (p p' : Pool κ σ) (k : κ) (v : Service) (q : Request)
    (rest : List (Action σ)) : Prop where
  loading : p'.loading = none
  thread : p'.threads k = ⟨rest, none⟩
  connection : p'.connection = (v.perform p.connection q).2
  replies : p'.replies = p.replies ++ [⟨k, v, q, (v.perform p.connection q).1⟩]

section alone
variable {p : Pool κ σ} {k : κ} {v : Service} {q : Request} {rest : List (Action σ)}
  (hloading : p.loading = none) (hthread : p.threads k = ⟨.request v q :: rest, none⟩)
include hloading hthread

theorem serve_look (hq : q.settles = false) : ServedAlone p (p.run [k]) k v q rest := by
  rw [run_cons, run_nil, step_request v q rest (congrArg Thread.todo hthread), act_look p k v hq]
  exact ⟨hloading, by simp [note, answer, advance, hthread], rfl, rfl⟩

theorem serve_settled (hq : q.settles = true) {s : LoadState σ}
    (hstate : p.connection.binding.state = some s) :
    ServedAlone p (p.run [k, k]) k v q rest := by
  have hask : p.step k = (p.ask k).note (.request v q) := by
    rw [step_request v q rest (congrArg Thread.todo hthread),
      act_ask hq (congrArg Thread.given hthread)]
  have hact : (p.step k).step k =
      ((p.step k).answer k v q (v.performIn s p.connection q)).note (.request v q) := by
    rw [hask]
    simp only [ask, hstate]
    rw [step_request v q rest (by simp [note, hthread]), act_given (s := s) hq (by simp [note])]
    rfl
  have hperform : v.perform p.connection q = v.performIn s p.connection q := by
    rw [Service.perform_of_settles hq, Connection.settle_of_state hstate]
  rw [run_cons, run_cons, run_nil, hact, hask]
  simp only [ask, hstate]
  refine ⟨hloading, ?_, by rw [hperform]; rfl, by rw [hperform]; rfl⟩
  simp [note, answer, advance, hthread]

theorem settle_alone (hq : q.settles = true) (hstate : p.connection.binding.state = none) :
    (p.run [k, k]).loading = none ∧
      (p.run [k, k]).threads k = ⟨.request v q :: rest, none⟩ ∧
      (p.run [k, k]).connection = p.connection.settle.2 ∧
      (p.run [k, k]).replies = p.replies := by
  have hload : p.step k = (p.ask k).note (.request v q) := by
    rw [step_request v q rest (congrArg Thread.todo hthread),
      act_ask hq (congrArg Thread.given hthread)]
  have hput : (p.step k).step k =
      ((p.step k).put p.connection.load.1).note (.request v q) := by
    rw [hload]
    simp only [ask, hstate, hloading]
    rw [step_request v q rest (by simp [note, hthread]), act_ask hq (by simp [note, hthread])]
    simp only [ask, note, hstate, if_pos]
  rw [run_cons, run_cons, run_nil, hput, hload]
  simp only [ask, hstate, hloading]
  have hsettle : p.connection.settle = p.connection.load := by simp [Connection.settle, hstate]
  exact ⟨rfl, hthread, by rw [hsettle]; rfl, rfl⟩

theorem serve_alone : ∃ n, ServedAlone p (p.run (List.replicate n k)) k v q rest := by
  cases hq : q.settles with
  | false => exact ⟨1, serve_look hloading hthread hq⟩
  | true =>
    cases hstate : p.connection.binding.state with
    | some s => exact ⟨2, serve_settled hloading hthread hq hstate⟩
    | none =>
      obtain ⟨hloading', hthread', hconnection, hreplies⟩ :=
        settle_alone hloading hthread hq hstate
      have hstate' : (p.run [k, k]).connection.binding.state = some p.connection.settle.1 := by
        rw [hconnection, Connection.state_settle]
      have hserved := serve_settled hloading' hthread' hq hstate'
      have hperform : v.perform (p.run [k, k]).connection q = v.perform p.connection q := by
        rw [Service.perform_of_settles hq, Service.perform_of_settles hq, hconnection,
          Connection.settle_settle]
      refine ⟨4, ?_⟩
      rw [show List.replicate 4 k = [k, k] ++ [k, k] from rfl, run_append]
      refine ⟨hserved.loading, hserved.thread, ?_, ?_⟩
      · rw [hserved.connection, hperform]
      · rw [hserved.replies, hperform, hreplies]

end alone

def requests (run : List (Service × Request)) : List (Action σ) :=
  run.map fun e => .request e.1 e.2

theorem run_alone_from (k : κ) : ∀ (run : List (Service × Request)) (p : Pool κ σ),
    p.loading = none → p.threads k = ⟨requests run, none⟩ →
    ∃ n, (p.run (List.replicate n k)).connection = (Service.run p.connection run).2 ∧
      (p.run (List.replicate n k)).replies.map (·.reply) =
        p.replies.map (·.reply) ++ (Service.run p.connection run).1 := by
  intro run
  induction run with
  | nil =>
    intro p _ _
    exact ⟨0, rfl, (List.append_nil _).symm⟩
  | cons e rest ih =>
    intro p hloading hthread
    obtain ⟨v, q⟩ := e
    obtain ⟨n, hserved⟩ := serve_alone hloading hthread
    obtain ⟨m, hconnection, hreplies⟩ := ih _ hserved.loading hserved.thread
    refine ⟨n + m, ?_⟩
    rw [← List.replicate_append_replicate, run_append, Service.run_cons, ← hserved.connection]
    refine ⟨hconnection, ?_⟩
    rw [hreplies, hserved.replies]
    simp

/-- **A client alone.** The steps of a client that is alone come to the connection and the replies
that `Service.run` says. -/
theorem run_alone (c : Connection (Image σ) σ) (k : κ) (run : List (Service × Request)) :
    ∃ n, let p := (start c fun _ => requests run).run (List.replicate n k)
      p.connection = (Service.run c run).2 ∧
        p.replies.map (·.reply) = (Service.run c run).1 := by
  obtain ⟨n, hconnection, hreplies⟩ :=
    run_alone_from k run (start c fun _ => requests run) rfl rfl
  exact ⟨n, hconnection, hreplies⟩

end Pool

end Credentials
