import Tentacle.Service.Handle

/-!
# poll_next の一巡と、service の run

`poll_next` の一巡は、頭の終了判定、初回の初期化、buffer の flush、listen の更新、
session event と user task を一つずつ、future task の送出、尻の終了判定の順に進む。

一巡で外から来るものは `RoundInput` にまとめる。`event` は session event の receiver が
返すもの（`none` は `Pending`）、`task` は user task の receiver が返すもの、`oracle` は
buffer の `try_send` が出会う channel の様子である。

session event の receiver は service 自身が sender を持っているので、閉じるまでは
`Ready(None)` を返さない。閉じた後に何も返すものが無ければ `Ready(None)` になり、
`session_poll` は `unreachable!()` で panic する。これを `none` で表す。
-/

namespace Tentacle

/-- 一巡で外から来るもの。 -/
structure RoundInput where
  event : Option SessionEvent
  task : Option (Priority × ServiceTask)
  oracle : SendOracle

/-- `poll_next` の一巡がどこで終わったか。 -/
inductive PollNext where
  | headTerminated
  | tailTerminated
  | pending
  | ready
  deriving DecidableEq, Repr

/-- `flush_buffer`。積まれた buffer があるときだけ配る。 -/
def flushBuffer (o : SendOracle) : Op :=
  Op.seq
    (fun s => if s.sessions.values.all (·.buffer.isEmpty) then (s, []) else distributeToSession o s)
    (fun s =>
      if s.serviceProtoHandles.values.all (·.isEmpty) && s.sessionProtoHandles.values.all (·.isEmpty)
      then (s, []) else distributeToUserLevel o s)

/-- handler の buffer に溜まった event の数。 -/
def serviceProtoLen (s : Service) : Nat := (s.serviceProtoHandles.values.map (·.len)).sum

/-- session の handler の buffer に溜まった event の数。 -/
def sessionProtoLen (s : Service) : Nat := (s.sessionProtoHandles.values.map (·.len)).sum

/-- session に向けて溜まった event の数。 -/
def sessionBufferLen (s : Service) : Nat := (s.sessions.values.map (·.buffer.len)).sum

/-- `session_poll`。handler が遅れていれば読まない。読めた event を処理する。
返す `Bool` は `is_pending`。 -/
def sessionPoll (cfg : Config) (o : SendOracle) (event : Option SessionEvent) (s : Service) :
    Option (Service × List Effect × Bool) :=
  if cfg.recvEventSize < serviceProtoLen s || cfg.recvEventSize < sessionProtoLen s then
    some (s, [], true)
  else
    match event with
    | some e => (handleSessionEvent cfg o e s).map fun r => (r.1, r.2, false)
    | none => if s.sessionEventReceiverClosed then none else some (s, [], true)

/-- `user_task_poll`。session が遅れていれば読まない。閉じた receiver が空なら `Ready(None)`。
返す `Bool` は `is_pending`。 -/
def userTaskPoll (cfg : Config) (o : SendOracle) (task : Option (Priority × ServiceTask))
    (s : Service) : Service × List Effect × Bool :=
  if cfg.sendEventSize < sessionBufferLen s then (s, [], true)
  else
    match task with
    | some (priority, t) =>
      let r := handleServiceTask cfg o priority t s
      (r.1, r.2, false)
    | none => (s, [], !s.serviceTaskReceiverClosed)

/-- 頭と尻の終了判定。 -/
def terminationCondition (s : Service) : Bool :=
  s.listens.len == 0 && s.state.isShutdown && s.sessions.len == 0 && s.futureTaskSender.isEmpty

/-- 一巡の、初期化から future task の送出まで。返す二つの `Bool` は `session_poll` と
`user_task_poll` の `is_pending`。 -/
def pollBody (cfg : Config) (r : RoundInput) (s : Service) :
    Option (Service × List Effect × Bool × Bool) :=
  let s := if s.futureTaskManager then initProtoHandles cfg { s with futureTaskManager := false }
    else s
  let a := Op.seq (flushBuffer r.oracle) (tryUpdateListens r.oracle) s
  (sessionPoll cfg r.oracle r.event a.1).map fun b =>
    let c := userTaskPoll cfg r.oracle r.task b.1
    let d := sendPendingTask r.oracle c.1
    (d.1, a.2 ++ b.2.1 ++ c.2.1 ++ d.2, b.2.2, c.2.2)

/-- 一巡の結果。`sessionReady` は `session_poll` が event を読んで処理したか。 -/
structure RoundResult where
  service : Service
  out : List Effect
  next : PollNext
  sessionReady : Bool

/-- `poll_next`。どちらの終了判定でも共有の shutdown flag を立てて `wait_handle_poll` に移る。 -/
def pollNext (cfg : Config) (r : RoundInput) (s : Service) : Option RoundResult :=
  if terminationCondition s then some ⟨{ s with shutdown := true }, [], .headTerminated, false⟩
  else
    (pollBody cfg r s).map fun b =>
      if terminationCondition b.1 then ⟨{ b.1 with shutdown := true }, b.2.1, .tailTerminated, !b.2.2.1⟩
      else ⟨b.1, b.2.1, if b.2.2.1 && b.2.2.2 then .pending else .ready, !b.2.2.1⟩

/-! ## run -/

/-- service に起きる一歩。`poll_next` の一巡か、巡の合間に呼ばれる公開の `listen` と `dial`。 -/
inductive Input where
  | round (r : RoundInput)
  | listen (address : Multiaddr) (result : Except String Multiaddr)
  | dial (address : Multiaddr) (target : TargetProtocol) (result : Except String (Multiaddr × Handle))

/-- 一歩の後の状態と、外に起こしたこと。一巡の結果は捨てる。 -/
def step (cfg : Config) : Input → Service → Option (Service × List Effect)
  | .round r, s => (pollNext cfg r s).map fun b => (b.service, b.out)
  | .listen address result, s => let r := listen cfg address result s; some (r.1, r.2.1)
  | .dial address target result, s => let r := dial cfg address target result s; some (r.1, r.2.1)

/-- 作ったばかりの service から届く状態と、それまでに外に起こしたことの列。 -/
inductive Reachable (cfg : Config) (forever : Bool) : Service → List Effect → Prop where
  | init : Reachable cfg forever (Service.new forever) []
  | step {s s' : Service} {log out : List Effect} (i : Input) :
      Reachable cfg forever s log → step cfg i s = some (s', out) →
      Reachable cfg forever s' (log ++ out)

end Tentacle
