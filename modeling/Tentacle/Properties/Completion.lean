import Tentacle.Properties.Runtime

/-!
# shutdown の後、service は終わることができる

`Shutdown(false)` の後の service は、listen address も積まれた future task も捨て、session には
閉じるよう頼んだだけである。表に残る session と listener は runtime で走っている future に
支えられている（`Futures.lean`）ので、service が終わるには future が止まるのを待てばよい。

ここでは、receiver が開いていて service がまだ終わっていなければ、user task を読まない run で
いつでも終了の判定に達することを示す。run は、まず一巡で buffer に残った future を runtime に
渡し、そのあと走っている future を先頭から一つずつ止める。dial・listen・handshake・listener は
失敗し、`Session` は閉じ、user の future は終わる。どの巡も channel は全部送れるとする。

* `pollNext_stop` — そういう巡は、止まった future の event を必ず読み、何も spawn せず、
  buffer を空にする。handler の buffer は巡の初めの flush で空になるので、読むのを控えることはない
* `drain_reaches` — 走っている future の数についての帰納法。future が無くなれば表も空である
* `shutdown_completes` — shutdown の後の service は、終わりに達しうる
-/

namespace Tentacle

/-! ## channel が全部送れる巡 -/

/-- handler の buffer がどれも空か。`flush_buffer` の二つ目の確認と同じ。 -/
def handlersEmpty (s : Service) : Bool :=
  s.serviceProtoHandles.values.all (·.isEmpty) && s.sessionProtoHandles.values.all (·.isEmpty)

theorem protoLen_of_handlersEmpty {s : Service} (h : handlersEmpty s = true) :
    serviceProtoLen s = 0 ∧ sessionProtoLen s = 0 := by
  simp only [handlersEmpty, Bool.and_eq_true, List.all_eq_true] at h
  simp only [serviceProtoLen, sessionProtoLen, List.sum_eq_zero_iff, List.mem_map]
  constructor <;> rintro _ ⟨b, hb, rfl⟩
  · simpa [Buffer.isEmpty, Buffer.len] using h.1 b hb
  · simpa [Buffer.isEmpty, Buffer.len] using h.2 b hb

/-- channel がどれも全部送れるなら、`distribute_to_user_level` は handler の buffer を全部空にし、
共有の shutdown flag に触れない。 -/
theorem distributeToUserLevel_ok {s : Service} (h : s.shutdown = false) :
    handlersEmpty (distributeToUserLevel .ok s).1 = true ∧
      (distributeToUserLevel .ok s).1.shutdown = false := by
  have hd : userLevelDisconnected .ok s = false := by
    simp [userLevelDisconnected, SendOracle.ok, Buffer.trySend]
  simp only [distributeToUserLevel, h, hd, Bool.false_eq_true, ↓reduceIte]
  simp only [handlersEmpty, sendToUserLevel, AList.values, AList.mapVal, List.map_map, List.all_map]
  simp [SendOracle.ok, Buffer.trySend, Function.comp_def, Buffer.isEmpty, Buffer.new, h]

/-- channel がどれも全部送れるなら、一巡の flush と listen の更新の後、handler の buffer は空で、
共有の shutdown flag は下りたまま。 -/
theorem pollPrefix_ok {s : Service} (h : s.shutdown = false) :
    handlersEmpty (Op.seq (flushBuffer .ok) (tryUpdateListens .ok) s).1 = true ∧
      (Op.seq (flushBuffer .ok) (tryUpdateListens .ok) s).1.shutdown = false := by
  have hflush : handlersEmpty (flushBuffer .ok s).1 = true ∧ (flushBuffer .ok s).1.shutdown = false := by
    simp only [flushBuffer, Op.seq_fst]
    generalize hs₁ : (if s.sessions.values.all (·.buffer.isEmpty) then (s, [])
      else distributeToSession .ok s).1 = s₁
    have h₁ : s₁.shutdown = false := by
      subst hs₁
      split
      · exact h
      · unfold distributeToSession; split <;> exact h
    split
    · exact ⟨‹_›, h₁⟩
    · exact distributeToUserLevel_ok h₁
  rw [Op.seq_fst]
  unfold tryUpdateListens
  split
  · exact hflush
  · exact distributeToUserLevel_ok hflush.2

/-- 止まる future が送る event。 -/
def SessionEvent.isStop : SessionEvent → Bool
  | .dialError .. | .listenError .. | .handshakeError .. | .sessionClose _ => true
  | _ => false

/-- 止まる future の event の処理は、何も積まず何も渡さず、共有の shutdown flag に触れない。 -/
theorem handleSessionEvent_stop (cfg : Config) (o : SendOracle) {e : SessionEvent}
    (he : e.isStop = true) : ∃ op, SpawnFree (fun _ => true) op ∧
      (∀ s, (op s).1.shutdown = s.shutdown) ∧ ∀ s, handleSessionEvent cfg o e s = some (op s) := by
  cases e with
  | sessionClose id =>
    exact ⟨_, spawnFree_sessionClose o id .internal,
      fun s => by simp only [sessionClose]; split <;> rfl, fun _ => rfl⟩
  | handshakeError ty error address =>
    refine ⟨_, spawnFree_dialerError address ty.isOutbound
      (.dialerError address (.handshakeError error)), fun s => by split <;> rfl, fun s => ?_⟩
    simp only [handleSessionEvent]
    split <;> rfl
  | dialError address error =>
    exact ⟨_, spawnFree_dialerError address true (.dialerError address (.transportError error)),
      fun _ => rfl, fun _ => rfl⟩
  | listenError address error =>
    exact ⟨_, spawnFree_handleListenError address error,
      fun s => by unfold handleListenError; split <;> rfl, fun _ => rfl⟩
  | _ => cases he

theorem spawned_eq_nil {out : List Effect} (h : ∀ e ∈ out, e.spawns (fun _ => true) = false) :
    spawned out = [] :=
  List.filterMap_eq_nil_iff.mpr fun e he => by
    cases e with
    | spawn t => cases h _ he
    | _ => rfl

/-- handler の buffer が空なら、`session_poll` は止まる future の event を必ず読み、何も積まず
何も渡さず、共有の shutdown flag と receiver に触れない。event が無いときは、receiver が開いて
いるので待つ。 -/
theorem sessionPoll_stop (cfg : Config) {ev : Option SessionEvent} {a : Service}
    (hempty : handlersEmpty a = true) (hflag : a.shutdown = false)
    (hev : ∀ e, ev = some e → e.isStop = true)
    (hnone : ev = none → a.sessionEventReceiverClosed = false) :
    ∃ b, sessionPoll cfg .ok ev a = some b ∧ (ev.isSome → b.2.2 = false) ∧ b.1.shutdown = false ∧
      b.1.sessionEventReceiverClosed = a.sessionEventReceiverClosed ∧
      (QueueFree (fun _ => true) a → QueueFree (fun _ => true) b.1 ∧
        ∀ e ∈ b.2.1, e.spawns (fun _ => true) = false) := by
  obtain ⟨hlen₁, hlen₂⟩ := protoLen_of_handlersEmpty hempty
  cases ev with
  | none =>
    exact ⟨(a, [], true), by simp [sessionPoll, hlen₁, hlen₂, hnone rfl], nofun, hflag, rfl,
      fun hq => ⟨hq, by simp⟩⟩
  | some e =>
    obtain ⟨op, hop, hopflag, hhandle⟩ := handleSessionEvent_stop cfg .ok (hev e rfl)
    exact ⟨((op a).1, (op a).2, false), by simp [sessionPoll, hlen₁, hlen₂, hhandle],
      fun _ => rfl, (hopflag _).trans hflag, handleSessionEvent_receiverClosed .ok (hhandle a),
      fun hq => ⟨hop.queue _ hq, hop.spawns _ hq⟩⟩

/-- channel がどれも全部送れて user task の無い巡は、止まる future の event を必ず読み、buffer を
空にする。巡の初めに buffer が空なら何も spawn しない。共有の shutdown flag は、その巡で終わる
のでなければ下りたまま。 -/
theorem pollNext_stop {cfg : Config} {ev : Option SessionEvent} {s : Service}
    (hflag : s.shutdown = false) (hterm : terminationCondition s = false)
    (hev : ∀ e, ev = some e → e.isStop = true)
    (hnone : ev = none → s.sessionEventReceiverClosed = false) :
    ∃ res, pollNext cfg ⟨ev, none, .ok⟩ s = some res ∧ (ev.isSome → res.sessionReady = true) ∧
      res.service.futureTaskSender.items = [] ∧
      (s.futureTaskSender.items = [] → spawned res.out = []) ∧
      res.service.sessionEventReceiverClosed = s.sessionEventReceiverClosed ∧
      (res.service.shutdown = false ∨ terminationCondition res.service = true) := by
  simp only [pollNext, hterm, Bool.false_eq_true, ↓reduceIte, pollBody, Option.map_map]
  -- 初回の初期化
  generalize hs₀ : (if s.futureTaskManager then
    initProtoHandles cfg { s with futureTaskManager := false } else s) = s₀
  have h₀ : s₀.shutdown = false ∧ s₀.futureTaskSender = s.futureTaskSender ∧
      s₀.sessionEventReceiverClosed = s.sessionEventReceiverClosed := by
    subst hs₀; split <;> exact ⟨hflag, rfl, rfl⟩
  -- flush と listen の更新
  have hpre := (spawnFree_flushBuffer (p := fun _ => true) SendOracle.ok).seq
    (spawnFree_tryUpdateListens SendOracle.ok)
  have hpa := fun hq => And.intro (hpre.queue s₀ hq) (hpre.spawns s₀ hq)
  obtain ⟨hempty, hflag₁⟩ := pollPrefix_ok h₀.1
  have hrecv₁ := Keeps.seq (keeps_flushBuffer .ok) (keeps_tryUpdateListens .ok) s₀
  generalize Op.seq (flushBuffer .ok) (tryUpdateListens .ok) s₀ = a at hempty hflag₁ hrecv₁ hpa ⊢
  -- handler の buffer が空なので、event を読む
  obtain ⟨b, hb, hready, hflagb, hrecvb, hspawnb⟩ := sessionPoll_stop cfg hempty hflag₁ hev
    fun h => hrecv₁.trans (h₀.2.2.trans (hnone h))
  have hut : (userTaskPoll cfg .ok none b.1).1 = b.1 ∧ (userTaskPoll cfg .ok none b.1).2.1 = [] := by
    unfold userTaskPoll; split <;> exact ⟨rfl, rfl⟩
  rw [hb, Option.map_some']
  simp only [Function.comp_apply, hut.1, hut.2]
  -- 巡の初めに buffer が空なら、何も spawn しない
  have hspawn (hq : s.futureTaskSender.items = []) :
      spawned (a.2 ++ b.2.1 ++ [] ++ (sendPendingTask .ok b.1).2) = [] := by
    obtain ⟨hqa, hsa⟩ := hpa fun t ht => by simp [h₀.2.1, hq] at ht
    obtain ⟨hqb, hsb⟩ := hspawnb hqa
    refine spawned_eq_nil fun e he => ?_
    simp only [List.append_nil, List.mem_append] at he
    rcases he with (he | he) | he
    · exact hsa e he
    · exact hsb e he
    · exact (spawnFree_sendPendingTask .ok).spawns _ hqb e he
  refine ⟨_, rfl, ?_⟩
  split
  · exact ⟨fun h => by simp [hready h], rfl, hspawn, hrecvb.trans (hrecv₁.trans h₀.2.2), .inr ‹_›⟩
  · exact ⟨fun h => by simp [hready h], rfl, hspawn, hrecvb.trans (hrecv₁.trans h₀.2.2), .inl hflagb⟩

/-! ## future を一つずつ止める -/

/-- future を止める一歩の結果。`Session` は閉じ、user の future は終わり、ほかは失敗する。 -/
def FutureTask.stopOutcome : FutureTask → Outcome
  | .session .. => .close
  | .user _ => .finish
  | _ => .fail ""

/-- 走っている future の先頭 `t` を止める `World` の一歩。user の future は event を送らずに
終わり、ほかは event を送って、それを読む巡を一つ回す。 -/
def FutureTask.stopInput : FutureTask → WorldInput
  | .user _ => .background 0 .finish
  | t => .round (some (0, t.stopOutcome)) none .ok

/-- user task を読まず、公開の `listen` も `dial` も呼ばない一歩。 -/
def WorldInput.withoutUser : WorldInput → Bool
  | .background .. => true
  | .round _ task _ => task.isNone
  | .listen .. | .dial .. => false

@[simp] theorem withoutUser_stopInput (t : FutureTask) : t.stopInput.withoutUser = true := by
  cases t <;> rfl

/-- 止まる future は、user の future でなければ、止まる future の event を送って何も残さない。 -/
theorem react_stopOutcome : ∀ t : FutureTask,
    (∃ n, t = .user n) ∨ ∃ e, react t t.stopOutcome = some (some e, []) ∧ e.isStop = true
  | .dial _ | .listen _ | .handshake .. | .listener _ | .session .. => .inr ⟨_, rfl, rfl⟩
  | .user n => .inl ⟨n, rfl⟩

/-- まだ終わっていない service の `World` で、先頭の future を止める一歩は必ず進み、その
future だけを取り除く。 -/
theorem next_stopInput {cfg : Config} {w : World} {t : FutureTask} {rest : List FutureTask}
    (htasks : w.tasks = t :: rest) (hflag : w.service.shutdown = false)
    (hterm : terminationCondition w.service = false) (hq : w.service.futureTaskSender.items = []) :
    ∃ w', w.next cfg t.stopInput = some w' ∧ w'.tasks = rest ∧
      w'.service.futureTaskSender.items = [] ∧
      w'.service.sessionEventReceiverClosed = w.service.sessionEventReceiverClosed ∧
      (w'.service.shutdown = false ∨ terminationCondition w'.service = true) := by
  rcases react_stopOutcome t with ⟨n, rfl⟩ | ⟨e, hr, he⟩
  · have hr : react (.user n) .finish = some (none, []) := rfl
    exact ⟨{ w with tasks := rest }, by simp only [FutureTask.stopInput, World.next, htasks,
      List.getElem?_cons_zero, Option.bind_eq_bind, Option.some_bind, hr, List.eraseIdx_cons_zero,
      List.append_nil], rfl,
      hq, rfl, .inl hflag⟩
  obtain ⟨res, hp, hready, hq', hspawn, hrecv, hend⟩ :=
    @pollNext_stop cfg (some e) w.service hflag hterm (fun _ h => Option.some.inj h ▸ he) nofun
  have hinput : t.stopInput = .round (some (0, t.stopOutcome)) none .ok := by
    cases t <;> first | rfl | simp [react, FutureTask.stopOutcome] at hr
  refine ⟨w.apply rest res.service res.out, ?_, by simp [World.apply, hspawn hq], hq', hrecv, hend⟩
  simp only [hinput, World.next, htasks, List.getElem?_cons_zero, Option.bind_eq_bind,
    Option.some_bind, hr, hp, hready rfl, if_true, List.eraseIdx_cons_zero, List.append_nil]

/-- 走っている future が無く、buffer も空なら、shutdown の後の service は終了の判定を満たす。
表の session と listen address は、どれも走っている future に支えられているからである。 -/
theorem terminationCondition_of_idle {cfg : Config} {forever : Bool} {w : World}
    (h : WorldReachable cfg forever w) (hts : w.tasks = []) (hs : w.service.state.shutdown = true)
    (hq : w.service.futureTaskSender.items = []) : terminationCondition w.service = true := by
  have hsessions : w.service.sessions.len = 0 := by
    rw [AList.len_eq_length_keys, List.length_eq_zero]
    refine List.eq_nil_iff_forall_not_mem.mpr fun id hid => ?_
    obtain ⟨_, ht, -⟩ := (sessions_backing cfg).reachable (fun _ h => by simp [Service.new] at h) h id hid
    simp [hts] at ht
  have hlistens : w.service.listens.len = 0 := by
    rw [AList.len_eq_length_keys, List.length_eq_zero]
    refine List.eq_nil_iff_forall_not_mem.mpr fun a ha => ?_
    obtain ⟨_, ht, -⟩ := (listens_backing cfg).reachable (fun _ h => by simp [Service.new] at h) h a ha
    simp [hts] at ht
  simp [terminationCondition, hsessions, hlistens, State.isShutdown, hs, Buffer.isEmpty, hq]

/-- `World` の一歩の後も、state の shutdown は立ったまま。 -/
theorem stateShutdown_next {cfg : Config} {w w' : World} {i : WorldInput}
    (hn : w.next cfg i = some w') (hs : w.service.state.shutdown = true) :
    w'.service.state.shutdown = true := by
  rcases World.next_service hn with ⟨h, -⟩ | ⟨j, out, hj, -⟩
  · rwa [h]
  · exact @TableInvariant.preserves_step cfg _ (shutdown_invariant cfg) j _ _ [] out hj hs

/-- 走っている future の数についての帰納法。先頭の future を止めるたびに一つ減り、無くなれば
終了の判定を満たす。 -/
theorem drain_reaches {cfg : Config} {forever : Bool} : ∀ (ts : List FutureTask) {w : World},
    w.tasks = ts → WorldReachable cfg forever w → w.service.state.shutdown = true →
      w.service.shutdown = false → w.service.futureTaskSender.items = [] →
      ∃ is w', (∀ i ∈ is, i.withoutUser = true) ∧ w.run cfg is = some w' ∧
        terminationCondition w'.service = true
  | [], w, hts, h, hs, _, hq =>
    ⟨[], w, List.forall_mem_nil _, rfl, terminationCondition_of_idle h hts hs hq⟩
  | t :: rest, w, hts, h, hs, hflag, hq => by
    cases hterm : terminationCondition w.service
    · obtain ⟨w', hn, hrest, hq', -, hend⟩ := next_stopInput hts hflag hterm hq
      rcases hend with hflag' | hterm'
      · obtain ⟨is, w'', hu, hrun, hdone⟩ :=
          drain_reaches rest hrest (.step _ h hn) (stateShutdown_next hn hs) hflag' hq'
        refine ⟨t.stopInput :: is, w'', ?_, by simp [World.run, hn, hrun], hdone⟩
        simpa using hu
      · exact ⟨[t.stopInput], w', by simp, by simp [World.run, hn], hterm'⟩
    · exact ⟨[], w, List.forall_mem_nil _, rfl, hterm⟩

/-- `Shutdown(false)` の後、receiver が開いていて service がまだ終わっていなければ、user task を
読まず公開の `listen` も `dial` も呼ばない run で、service は終了の判定に達しうる。その run は
一巡で buffer の future を runtime に渡し、あとは走っている future を一つずつ止める。
終わるのを妨げるものは、走り続ける future と新しい user task のほかに無い。 -/
theorem shutdown_completes {cfg : Config} {forever : Bool} {w : World}
    (h : WorldReachable cfg forever w) (hs : w.service.state.shutdown = true)
    (hopen : w.service.sessionEventReceiverClosed = false) (hflag : w.service.shutdown = false) :
    ∃ is w', (∀ i ∈ is, i.withoutUser = true) ∧ w.run cfg is = some w' ∧
      terminationCondition w'.service = true := by
  cases hterm : terminationCondition w.service
  · obtain ⟨res, hp, -, hq, -, -, hend⟩ :=
      @pollNext_stop cfg none w.service hflag hterm (fun _ h => nomatch h) fun _ => hopen
    have hn : w.next cfg (.round none none .ok) = some (w.apply w.tasks res.service res.out) := by
      simp [World.next, hp]
    rcases hend with hflag₁ | hterm₁
    · obtain ⟨is, w', hu, hrun, hdone⟩ :=
        drain_reaches _ rfl (.step _ h hn) (stateShutdown_next hn hs) hflag₁ hq
      refine ⟨.round none none .ok :: is, w', ?_, by simp [World.run, hn, hrun], hdone⟩
      simpa [WorldInput.withoutUser] using hu
    · exact ⟨[.round none none .ok], w.apply w.tasks res.service res.out,
        by simp [WorldInput.withoutUser], by simp [World.run, hn], hterm₁⟩
  · exact ⟨[], w, List.forall_mem_nil _, rfl, hterm⟩

/-- 例の run の後で、`Shutdown(false)` を読む巡を一つ回す。 -/
def shutdownTrace : List WorldInput :=
  demoTrace ++ [.round none (some (.high, .shutdown false)) .ok]

/-- 例の run の後で `Shutdown(false)` を読んだ `World`。session は閉じるよう頼まれたが、まだ表にある。 -/
def shutdownWorld : World :=
  ((World.init false).run demoConfig shutdownTrace).getD (World.init false)

theorem shutdownWorld_reachable : WorldReachable demoConfig false shutdownWorld :=
  @WorldReachable.run _ _ (World.init false) _ shutdownTrace .init rfl

/-- 例：shutdown の後も session が一つ残っているが、future を止めてゆけば service は終わる。 -/
theorem shutdown_completes_demo :
    shutdownWorld.service.sessions.len = 1 ∧
      ∃ is w', (∀ i ∈ is, i.withoutUser = true) ∧ shutdownWorld.run demoConfig is = some w' ∧
        terminationCondition w'.service = true :=
  ⟨by decide, shutdown_completes shutdownWorld_reachable rfl rfl rfl⟩

end Tentacle
