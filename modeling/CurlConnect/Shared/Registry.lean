import CurlConnect.Shared.FrontEnd

/-!
The process-wide registry of shared connections, `SharedHTTPConnection::contexts`, and
the threads that use it through their front-ends.

A state holds the registry, the owner of `contexts_mtx` and of each entry mutex, every
front-end constructed so far with the thread that owns it, and where each thread is in
its code. A step is a thread calling an operation on front-ends it owns, up to the
first lock the operation needs, or a thread taking a lock together with the code it
then runs, up to the next lock, `curl_easy_perform`, or the end of the critical section.
Only its own thread touches a front-end, and an entry's connection is touched only under
the entry's mutex, so these writes commute with the steps of every other thread and run
with the lock step next to them. `curl_easy_perform` is a step of its own, taken only when
the transfer returns (`Env.returns`): until then its thread holds the entry mutex.

`contexts[context_id] = Context(...)` evaluates its two sides in an order that was
unspecified before C++17 (`EvalOrder`): when the left side goes first and the
`HTTPConnection` constructor throws, `operator[]` has already inserted a default
`Context`. A failed `assert` ends the process; the model marks the thread `aborted`
and leaves the locks as they were. Destroying a front-end runs `close`.

Not modelled: running out of memory in `new`, and the move constructor and move
assignment the header may declare.
-/

namespace CurlConnect

/-- Which side of `contexts[context_id] = Context(...)` is evaluated first: the left may go
first before C++17, where the order is unspecified; C++17 requires the right first. -/
inductive EvalOrder where
  | lhsFirst
  | rhsFirst
  deriving DecidableEq, Repr

/-- Modelled from the spec: `SharedHTTPConnection::Context`, declared in the header that
is not in the source. It owns the shared connection (null in an entry that `operator[]`
default-constructs), counts the open front-ends bound to it, and owns the entry's
mutex, here its address (null in a default entry). -/
structure Context where
  conn : Option HTTPConnection
  nref : Int
  mtx : Nat

/-- `Context(conn)`: the connection, a new mutex, no reference yet. -/
def Context.ofConn (conn : HTTPConnection) (mtx : Nat) : Context :=
  { conn := some conn, nref := 0, mtx := mtx }

/-- `Context()`, what `contexts[context_id]` inserts before it is assigned. -/
def Context.default : Context := { conn := none, nref := 0, mtx := 0 }

namespace SharedHTTPConnection

/-- `incr_ref(id)`; `none` when one of its assertions fails. -/
def incrRef (contexts : Int → Option Context) (id : Int) : Option (Int → Option Context) :=
  match contexts id with
  | none => none
  | some ctx =>
      if ctx.conn.isNone then none
      else some (Function.update contexts id (some { ctx with nref := ctx.nref + 1 }))

/-- `decr_ref(id)`: the entry is erased when its count reaches zero. -/
def decrRef (contexts : Int → Option Context) (id : Int) : Option (Int → Option Context) :=
  match contexts id with
  | none => none
  | some ctx =>
      if ctx.conn.isNone ∨ ctx.nref - 1 < 0 then none
      else if ctx.nref - 1 = 0 then some (Function.update contexts id none)
      else some (Function.update contexts id (some { ctx with nref := ctx.nref - 1 }))

def nconnections (contexts : Int → Option Context) (id : Int) : Int :=
  match contexts id with
  | none => 0
  | some ctx => ctx.nref

/-- A front-end as its constructor leaves it: open, with no headers, fields or timeout. -/
def opened (url : List Char) (meth : HttpMethod) (id : Int) : SharedHTTPConnection :=
  { isOpen := true, url := url, meth := meth, headers := [], fields := [], timeout := 0, id := id }

/-- What the constructor does to an entry that exists, under the entry's mutex:
`set_method(meth)`, then `set_url(url)` for a non-empty URL. -/
def reconfigure (env : Env) (url : List Char) (meth : HttpMethod) : Cpp HTTPConnection Unit := do
  HTTPConnection.setMethod env meth
  (if url.isEmpty then pure () else HTTPConnection.setUrl env url)

/-- The connection the constructor creates for an id that is not in the registry. -/
def newConnection (env : Env) (url : List Char) (meth : HttpMethod) :
    Except CurlException HTTPConnection :=
  if url.isEmpty then HTTPConnection.newMethod env meth else HTTPConnection.new env url meth

end SharedHTTPConnection

open SharedHTTPConnection

/-- An operation a thread calls on the front-ends it owns, named by their index. -/
inductive Op where
  | construct (url : List Char) (meth : HttpMethod) (id : Int)
  | copy (src : Nat)
  | assign (dst src : Nat)
  | close (obj : Nat)
  | execute (obj : Nat) (b : Bool)
  | nconnections (id : Int)
  | setUrl (obj : Nat) (url : List Char)
  | setPending (obj : Nat) (meth : HttpMethod) (headers fields : List (List Char × List Char))
      (timeout : Int)

def Op.objects : Op → List Nat
  | .copy src => [src]
  | .assign dst src => [dst, src]
  | .close obj => [obj]
  | .execute obj _ => [obj]
  | .setUrl obj _ => [obj]
  | .setPending obj _ _ _ _ => [obj]
  | .construct .. | .nconnections _ => []

/-- Where a thread is in the code of `SharedHTTPConnection`. `ctorWait`, `copyWait`,
`assignWait`, `closeWait`, `resolveWait` (`_get_context` in `execute`) and `countWait`
(`nconnections`) wait for `contexts_mtx`. A constructor that found its entry holds
`contexts_mtx` and waits for (`ctorEntry`) or holds (`ctorHold`) the entry mutex `m`.
`execute` waits for the mutex `m` of the entry it resolved (`execWait`), holds it inside
`curl_easy_perform` (`execPerform`), and holds it on its way out (`execHold`): the transfer
returned, or a call before it threw. `aborted`: an assertion failed. -/
inductive Pc where
  | idle
  | ctorWait (url : List Char) (meth : HttpMethod) (id : Int)
  | ctorEntry (url : List Char) (meth : HttpMethod) (id : Int) (m : Nat)
  | ctorHold (url : List Char) (meth : HttpMethod) (id : Int) (m : Nat)
  | copyWait (src : Nat)
  | assignWait (dst src : Nat)
  | closeWait (obj : Nat)
  | resolveWait (obj : Nat) (b : Bool)
  | execWait (obj : Nat) (b : Bool) (m : Nat)
  | execPerform (obj : Nat) (b : Bool) (m : Nat)
  | execHold (obj : Nat) (m : Nat)
  | countWait (id : Int)
  | aborted
  deriving DecidableEq

namespace Pc

def waitsGlobal : Pc → Bool
  | .ctorWait .. | .copyWait _ | .assignWait .. | .closeWait _ | .resolveWait .. | .countWait _ => true
  | _ => false

def holdsGlobal : Pc → Bool
  | .ctorEntry .. | .ctorHold .. => true
  | _ => false

def waitsEntry : Pc → Option Nat
  | .ctorEntry _ _ _ m | .execWait _ _ m => some m
  | _ => none

def holdsEntry : Pc → Option Nat
  | .ctorHold _ _ _ m | .execPerform _ _ m | .execHold _ m => some m
  | _ => none

/-- The thread holds an entry mutex and goes on to let it go. -/
def releases : Pc → Bool
  | .ctorHold .. | .execHold .. => true
  | _ => false

def inTransfer : Pc → Bool
  | .execPerform .. => true
  | _ => false

/-- Where `execute` is once the code before `curl_easy_perform` has run: inside the
transfer, or on its way out when a call threw. -/
def afterPrepare {σ : Type} (obj : Nat) (b : Bool) (m : Nat) :
    EStateM.Result CurlException σ Unit → Pc
  | .ok .. => .execPerform obj b m
  | .error .. => .execHold obj m

theorem afterPrepare_holdsGlobal {σ : Type} {obj : Nat} {b : Bool} {m : Nat}
    (r : EStateM.Result CurlException σ Unit) : (afterPrepare obj b m r).holdsGlobal = false := by
  cases r <;> rfl

theorem afterPrepare_holdsEntry {σ : Type} {obj : Nat} {b : Bool} {m : Nat}
    (r : EStateM.Result CurlException σ Unit) : (afterPrepare obj b m r).holdsEntry = some m := by
  cases r <;> rfl

end Pc

structure Slot where
  owner : Nat
  fe : SharedHTTPConnection

/-- `SharedHTTPConnection::contexts`, the owner of `contexts_mtx` and of each entry mutex
(by its address), the address the next `new std::mutex` returns, every front-end constructed
so far with the thread that owns it, and where each thread is. -/
structure Sys where
  contexts : Int → Option Context
  global : Option Nat
  mutexes : Nat → Option Nat
  nextMtx : Nat
  objs : List Slot
  pc : Nat → Pc

namespace Sys

/-- No entry, no lock held, no front-end, every thread idle. -/
def init : Sys :=
  { contexts := fun _ => none, global := none, mutexes := fun _ => none, nextMtx := 1,
    objs := [], pc := fun _ => .idle }

def setPc (s : Sys) (t : Nat) (p : Pc) : Sys := { s with pc := Function.update s.pc t p }

def addObj (s : Sys) (t : Nat) (fe : SharedHTTPConnection) : Sys :=
  { s with objs := s.objs ++ [⟨t, fe⟩] }

def setObj (s : Sys) (i : Nat) (fe : SharedHTTPConnection) : Sys :=
  match s.objs[i]? with
  | some o => { s with objs := s.objs.set i ⟨o.owner, fe⟩ }
  | none => s

/-- Thread `t` owns every front-end `op` names. -/
def Owns (s : Sys) (t : Nat) (op : Op) : Prop :=
  ∀ i ∈ op.objects, ∃ o, s.objs[i]? = some o ∧ o.owner = t

/-- Thread `t` calls `op`: the code before the first lock. A closed front-end's
`execute` throws `"connection has been closed"`, its `close` returns, and its copy takes
no lock; `operator=` between equal values does nothing. -/
def call (s : Sys) (t : Nat) : Op → Sys
  | .construct url meth cid => s.setPc t (.ctorWait url meth cid)
  | .copy src =>
      match s.objs[src]? with
      | some o => if o.fe.isOpen then s.setPc t (.copyWait src) else s.addObj t o.fe
      | none => s
  | .assign dst src =>
      match s.objs[dst]?, s.objs[src]? with
      | some d, some o => if d.fe.beq o.fe then s else s.setPc t (.assignWait dst src)
      | _, _ => s
  | .close obj =>
      match s.objs[obj]? with
      | some o => if o.fe.isOpen then s.setPc t (.closeWait obj) else s
      | none => s
  | .execute obj b =>
      match s.objs[obj]? with
      | some o => if o.fe.isOpen then s.setPc t (.resolveWait obj b) else s
      | none => s
  | .nconnections cid => s.setPc t (.countWait cid)
  | .setUrl obj url =>
      match s.objs[obj]? with
      | some o => s.setObj obj (Cpp.stateOf (SharedHTTPConnection.setUrl url o.fe))
      | none => s
  | .setPending obj meth headers fields timeout =>
      match s.objs[obj]? with
      | some o => s.setObj obj (o.fe.setPending meth headers fields timeout)
      | none => s

/-- The bookkeeping of `operator=` under `contexts_mtx`, from `d` to the value of `o`. -/
def assignRefs (contexts : Int → Option Context) (d o : SharedHTTPConnection) :
    Option (Int → Option Context) :=
  if d.isOpen ≠ o.isOpen then
    if o.isOpen then incrRef contexts o.id else decrRef contexts d.id
  else if d.id ≠ o.id ∧ d.isOpen then (decrRef contexts d.id).bind fun r => incrRef r o.id
  else some contexts

variable (env : Env) (order : EvalOrder)

/-- What thread `t` does once it holds `contexts_mtx`, up to where it lets it go or
waits for an entry mutex while holding it; `none` when an assertion fails. -/
def globalSection (s : Sys) (t : Nat) : Pc → Option Sys
  | .ctorWait url meth cid =>
      match s.contexts cid with
      | none =>
          match newConnection env url meth with
          | .ok conn =>
              (incrRef (Function.update s.contexts cid (some (Context.ofConn conn s.nextMtx))) cid).map
                fun r => { (s.addObj t (opened url meth cid)) with
                  contexts := r, nextMtx := s.nextMtx + 1, pc := Function.update s.pc t .idle }
          | .error _ =>
              match order with
              | .rhsFirst => some (s.setPc t .idle)
              | .lhsFirst =>
                  some { s with contexts := Function.update s.contexts cid (some Context.default),
                                pc := Function.update s.pc t .idle }
      | some ctx =>
          if 0 < ctx.nref then
            some { s with global := some t, pc := Function.update s.pc t (.ctorEntry url meth cid ctx.mtx) }
          else none
  | .copyWait src =>
      match s.objs[src]? with
      | some o => (incrRef s.contexts o.fe.id).map fun r =>
          { (s.addObj t o.fe) with contexts := r, pc := Function.update s.pc t .idle }
      | none => none
  | .assignWait dst src =>
      match s.objs[dst]?, s.objs[src]? with
      | some d, some o => (assignRefs s.contexts d.fe o.fe).map fun r =>
          { (s.setObj dst o.fe) with contexts := r, pc := Function.update s.pc t .idle }
      | _, _ => none
  | .closeWait obj =>
      match s.objs[obj]? with
      | some o => (decrRef s.contexts o.fe.id).map fun r =>
          { (s.setObj obj { o.fe with isOpen := false }) with
            contexts := r, pc := Function.update s.pc t .idle }
      | none => none
  | .resolveWait obj b =>
      match s.objs[obj]? with
      | some o =>
          match s.contexts o.fe.id with
          | some ctx =>
              if ctx.conn.isSome ∧ 0 < ctx.mtx then some (s.setPc t (.execWait obj b ctx.mtx))
              else none
          | none => none
      | none => none
  | .countWait _ => some (s.setPc t .idle)
  | _ => some s

/-- Thread `t` takes `contexts_mtx` and runs its critical section. -/
def lockGlobal (s : Sys) (t : Nat) : Sys :=
  match globalSection env order s t (s.pc t) with
  | some s' => s'
  | none => s.setPc t .aborted

/-- Thread `t` takes the entry mutex it waits for. The constructor goes on to hold it;
`execute` pushes its request onto the entry's connection and runs the code before
`curl_easy_perform`. -/
def lockEntry (s : Sys) (t : Nat) : Sys :=
  match s.pc t with
  | .ctorEntry url meth cid m =>
      { s with mutexes := Function.update s.mutexes m (some t),
               pc := Function.update s.pc t (.ctorHold url meth cid m) }
  | .execWait obj b m =>
      match s.objs[obj]? with
      | some o =>
          match s.contexts o.fe.id with
          | some ctx =>
              match ctx.conn with
              | some conn =>
                  if ctx.mtx = m then
                    let r := executePrepared env o.fe b (o.fe, conn)
                    { (s.setObj obj (Cpp.stateOf r).1) with
                      contexts := Function.update s.contexts o.fe.id
                        (some { ctx with conn := some (Cpp.stateOf r).2 }),
                      mutexes := Function.update s.mutexes m (some t),
                      pc := Function.update s.pc t (Pc.afterPrepare obj b m r) }
                  else s.setPc t .aborted
              | none => s.setPc t .aborted
          | none => s.setPc t .aborted
      | none => s.setPc t .aborted
  | _ => s

def connOf (s : Sys) (obj : Nat) : Option HTTPConnection :=
  s.objs[obj]?.bind fun o => (s.contexts o.fe.id).bind Context.conn

/-- Thread `t` is inside `curl_easy_perform`, and the transfer returns; on a closed handle
it returns at once. -/
def transferReturns (s : Sys) (t : Nat) : Bool :=
  match s.pc t with
  | .execPerform obj _ _ => ((s.connOf obj).bind fun conn => conn.impl.handle).all env.returns
  | _ => false

/-- `curl_easy_perform` returns to thread `t`. It leaves the front-end and the connection
as they were (`perform_stateOf`). -/
def performReturn (s : Sys) (t : Nat) : Sys :=
  match s.pc t with
  | .execPerform obj _ m => s.setPc t (.execHold obj m)
  | _ => s

/-- Thread `t` lets its entry mutex go: `execute` returns; the constructor first
reconfigures the connection, then lets both locks go and, unless the reconfiguration
threw, counts its front-end. -/
def unlockEntry (s : Sys) (t : Nat) : Sys :=
  match s.pc t with
  | .execHold _ m => { s with mutexes := Function.update s.mutexes m none, pc := Function.update s.pc t .idle }
  | .ctorHold url meth cid m =>
      match s.contexts cid with
      | some ctx =>
          match ctx.conn with
          | some conn =>
              match reconfigure env url meth conn with
              | .ok _ conn' =>
                  match incrRef (Function.update s.contexts cid (some { ctx with conn := some conn' })) cid with
                  | some r =>
                      { (s.addObj t (opened url meth cid)) with
                        contexts := r, global := none, mutexes := Function.update s.mutexes m none,
                        pc := Function.update s.pc t .idle }
                  | none => s.setPc t .aborted
              | .error _ conn' =>
                  { s with contexts := Function.update s.contexts cid (some { ctx with conn := some conn' }),
                           global := none, mutexes := Function.update s.mutexes m none,
                           pc := Function.update s.pc t .idle }
          | none => s.setPc t .aborted
      | none => s.setPc t .aborted
  | _ => s

end Sys

/-- One step of one thread. -/
inductive Step (env : Env) (order : EvalOrder) : Sys → Sys → Prop where
  | call {s : Sys} {t : Nat} (op : Op) (hidle : s.pc t = .idle) (hown : s.Owns t op) :
      Step env order s (s.call t op)
  | lockGlobal {s : Sys} {t : Nat} (hwait : (s.pc t).waitsGlobal) (hfree : s.global = none) :
      Step env order s (s.lockGlobal env order t)
  | lockEntry {s : Sys} {t m : Nat} (hwait : (s.pc t).waitsEntry = some m)
      (hfree : s.mutexes m = none) : Step env order s (s.lockEntry env t)
  | performReturn {s : Sys} {t : Nat} (hret : s.transferReturns env t) :
      Step env order s (s.performReturn t)
  | unlockEntry {s : Sys} {t : Nat} (hrel : (s.pc t).releases) :
      Step env order s (s.unlockEntry env t)

/-- The states some interleaving reaches from `Sys.init`. -/
inductive Reachable (env : Env) (order : EvalOrder) : Sys → Prop where
  | init : Reachable env order Sys.init
  | step {s s' : Sys} : Reachable env order s → Step env order s s' → Reachable env order s'

namespace Reachable

variable {env : Env} {order : EvalOrder} {s : Sys}

theorem call (h : Reachable env order s) (t : Nat) (op : Op) (hidle : s.pc t = .idle)
    (hown : s.Owns t op) : Reachable env order (s.call t op) :=
  .step h (.call op hidle hown)

theorem lockGlobal (h : Reachable env order s) (t : Nat) (hwait : (s.pc t).waitsGlobal)
    (hfree : s.global = none) : Reachable env order (s.lockGlobal env order t) :=
  .step h (.lockGlobal hwait hfree)

theorem lockEntry (h : Reachable env order s) (t m : Nat) (hwait : (s.pc t).waitsEntry = some m)
    (hfree : s.mutexes m = none) : Reachable env order (s.lockEntry env t) :=
  .step h (.lockEntry hwait hfree)

theorem performReturn (h : Reachable env order s) (t : Nat) (hret : s.transferReturns env t) :
    Reachable env order (s.performReturn t) :=
  .step h (.performReturn hret)

end Reachable

def SharedHTTPConnection.boundTo (fe : SharedHTTPConnection) (cid : Int) : Bool :=
  fe.isOpen && fe.id == cid

def openCount (objs : List Slot) (cid : Int) : Nat :=
  objs.countP fun o => o.fe.boundTo cid

end CurlConnect
