import Tentacle.Properties.Listens
import Tentacle.Properties.Shutdown

/-!
# service の表と、runtime で走る future

`session_open` は session を表に入れると同時にその `Session` を spawn し、`ListenStart` の
処理と公開の `listen` は listen address を表に入れると同時にその listener を spawn する。
`Session` の future は止まるときに自分の id の `SessionClose` を、listener は自分の address の
`ListenError` を送り、それを読んだ巡で表から外される。だから表に残った key の future が先に
無くなることはない。

* `pollNext_sessions`, `pollNext_listens` — 一巡の後で表にある key は、前からあってその巡が
  読んだ event がその key を終えるものでないか、その巡でその key の future を spawn したかである
* `Backing.reachable` — そういう表の key は、どの時点でも走っている future に支えられている
* `sessionsRunning_reachable` — 表にある session には、それぞれ自分の id の `Session` が走っている
* `listenersRunning_reachable` — 表にある listen address には、それぞれその listener が走っている

逆に、走っている future と試みの数が表と数から見えるとは限らない。pending の数と `listens` は、
listen の試みの失敗と listener の停止を、どちらも `ListenError` として受け取り、address が
`listens` にあるかどうかだけで見分ける。`dial_inner` は transport に dial させる前に
`dial_protocols` に記録し、transport が同期に断っても記録を残す。

* `pending_ne_attemptsInFlight` — 終わっていない試みが無いのに pending が 1 のまま残る
* `listenClose_while_listening` — listener が走っているのに、その address は `listens` に無い
* `dialProtocols_stale` — 同期に断られた dial の記録が残り、同じ address への `Dial` task を捨てる
-/

namespace Tentacle

/-! ## 一巡で表に残る session -/

theorem Quiet.mem_sessions {op : Op} (hq : Quiet op) (s : Service) (id : SessionId) :
    id ∈ (op s).1.sessions ↔ id ∈ s.sessions := by
  rw [← isSome_contexts, hq.contexts, isSome_contexts]

/-- shutdown は表から外すだけである。 -/
theorem mem_handleShutdown_sessions (o : SendOracle) (quick : Bool) (s : Service)
    {id : SessionId} (h : id ∈ (handleShutdown o quick s).1.sessions) : id ∈ s.sessions := by
  cases quick with
  | false => exact ((quiet_handleShutdown_graceful o).mem_sessions s id).mp h
  | true =>
    rw [← isSome_contexts] at h ⊢
    simp only [handleShutdown, Op.seq_fst, if_true, contexts_forEach_sessionClose_internal] at h
    split at h
    · cases h
    · rwa [(quiet_shutdownDrain true).contexts] at h

theorem mem_userTaskPoll_sessions (cfg : Config) (o : SendOracle)
    (task : Option (Priority × ServiceTask)) (s : Service) {id : SessionId}
    (h : id ∈ (userTaskPoll cfg o task s).1.sessions) : id ∈ s.sessions := by
  rcases userTaskPoll_cases cfg o task s with ⟨h₁, -⟩ | ⟨p, t, -, h₁, -⟩ <;> rw [h₁] at h
  · exact h
  · by_cases ht : t = .shutdown true
    · subst ht; exact mem_handleShutdown_sessions o true s h
    · exact ((quiet_handleServiceTask cfg o p ht).mem_sessions s id).mp h

/-- `session_open` が表に足す id には、その `Session` を spawn する。 -/
theorem sessionOpen_sessions {cfg : Config} {hd : Handle} {key : Option PublicKey} {a : Multiaddr}
    {ty : SessionType} {l : Option Multiaddr} {s s' : Service} {out : List Effect}
    (ho : sessionOpen cfg hd key a ty l s = some (s', out)) {id : SessionId} (h : id ∈ s'.sessions) :
    id ∈ s.sessions ∨ ∃ hd' snd op, Effect.spawn (.session id hd' snd op) ∈ out := by
  obtain ⟨s₀, rfl, ⟨-, rfl⟩ | ⟨a', -, ho⟩⟩ := sessionOpen_stages ho
  · exact .inl h
  · simp only [sessionOpenInsert, Option.map_eq_some', Prod.mk.injEq] at ho
    obtain ⟨s₁, hg, rfl, rfl⟩ := ho
    obtain ⟨hs₁, -⟩ := generateNextSession_spec hg
    rw [sessionHandlesOpen_sessions, AList.mem_insert] at h
    rcases h with rfl | h
    · exact .inr ⟨_, _, _, List.mem_cons_self _ _⟩
    · rw [hs₁] at h
      exact .inl h

theorem handleSessionEvent_sessions {cfg : Config} {o : SendOracle} {e : SessionEvent}
    {s s' : Service} {out : List Effect} (he : handleSessionEvent cfg o e s = some (s', out))
    {id : SessionId} (h : id ∈ s'.sessions) :
    (id ∈ s.sessions ∧ e ≠ .sessionClose id) ∨
      ∃ hd snd op, Effect.spawn (.session id hd snd op) ∈ out := by
  cases ht : e.touchesSessions with
  | false =>
    obtain ⟨op, hq, hop⟩ := handleSessionEvent_quiet cfg o ht
    rw [hop, Option.some.injEq] at he
    obtain ⟨rfl, rfl⟩ := Prod.ext_iff.mp he
    exact .inl ⟨(hq.mem_sessions s id).mp h, by rintro rfl; cases ht⟩
  | true =>
    cases e with
    | sessionClose j =>
      simp only [handleSessionEvent, Option.some.injEq] at he
      obtain ⟨rfl, rfl⟩ := Prod.ext_iff.mp he
      rw [← isSome_contexts, sessionClose_internal_contexts] at h
      split at h
      · cases h
      · exact .inl ⟨isSome_contexts.mp h, fun hj => ‹¬id = j› (SessionEvent.sessionClose.inj hj).symm⟩
    | handshakeSuccess handle key address ty l =>
      obtain ⟨s₁, rfl, ⟨rfl, rfl⟩ | ⟨-, ho⟩⟩ := handleHandshakeSuccess_cases he
      · exact .inl ⟨h, nofun⟩
      · exact (sessionOpen_sessions ho h).imp_left fun h => ⟨h, nofun⟩
    | _ => cases ht

theorem sessionPoll_sessions {cfg : Config} {o : SendOracle} {ev : Option SessionEvent}
    {s s' : Service} {out : List Effect} {p : Bool} (hp : sessionPoll cfg o ev s = some (s', out, p))
    {id : SessionId} (h : id ∈ s'.sessions) :
    (id ∈ s.sessions ∧ (p = false → ev ≠ some (.sessionClose id))) ∨
      ∃ hd snd op, Effect.spawn (.session id hd snd op) ∈ out := by
  unfold sessionPoll at hp
  split at hp
  · cases hp; exact .inl ⟨h, nofun⟩
  split at hp
  · obtain ⟨_, he, ⟨⟩⟩ := Option.map_eq_some'.mp hp
    exact (handleSessionEvent_sessions he h).imp_left fun ⟨h, hne⟩ =>
      ⟨h, fun _ hc => hne (Option.some.inj hc)⟩
  · split at hp <;> cases hp
    exact .inl ⟨h, nofun⟩

/-- 一巡の後で表にある id は、前からあって、その巡が読んで処理した event がその id の
`SessionClose` でないか、その巡でその id の `Session` を spawn したかである。 -/
theorem pollNext_sessions {cfg : Config} {r : RoundInput} {s : Service} {res : RoundResult}
    (hp : pollNext cfg r s = some res) {id : SessionId} (h : id ∈ res.service.sessions) :
    (id ∈ s.sessions ∧ (res.sessionReady = true → r.event ≠ some (.sessionClose id))) ∨
      ∃ hd snd op, Effect.spawn (.session id hd snd op) ∈ res.out := by
  unfold pollNext at hp
  split at hp
  · cases hp; exact .inl ⟨h, nofun⟩
  simp only [pollBody, Option.map_map, Option.map_eq_some'] at hp
  obtain ⟨b, hb, hres⟩ := hp
  -- 初期化と flush と listen の更新は表を変えない
  have hpre : ∀ j, j ∈ (Op.seq (flushBuffer r.oracle) (tryUpdateListens r.oracle)
      (if s.futureTaskManager then initProtoHandles cfg { s with futureTaskManager := false }
        else s)).1.sessions → j ∈ s.sessions := fun j hj => by
    rw [((quiet_flushBuffer r.oracle).seq (quiet_tryUpdateListens r.oracle)).mem_sessions] at hj
    split at hj <;> exact hj
  simp only [Function.comp_apply] at hres
  have hres' : res.service.sessions = (sendPendingTask r.oracle
        (userTaskPoll cfg r.oracle r.task b.1).1).1.sessions ∧ res.sessionReady = !b.2.2 ∧
      ∀ e ∈ b.2.1, e ∈ res.out := by
    split at hres <;> subst hres <;> exact ⟨rfl, rfl, fun e he => by simp [he]⟩
  rw [hres'.1, (quiet_sendPendingTask r.oracle).mem_sessions] at h
  rcases sessionPoll_sessions hb (mem_userTaskPoll_sessions cfg r.oracle r.task _ h) with
    ⟨h, hne⟩ | ⟨hd, snd, op, hm⟩
  · exact .inl ⟨hpre id h, fun hr => hne (by simpa [hres'.2.1] using hr)⟩
  · exact .inr ⟨hd, snd, op, hres'.2.2 _ hm⟩

/-! ## 一巡で表に残る listen address -/

theorem mem_tryUpdateListens_listens (o : SendOracle) (s : Service) {a : Multiaddr}
    (h : a ∈ (tryUpdateListens o s).1.listens) : a ∈ s.listens := by
  unfold tryUpdateListens at h
  split at h
  · exact h
  · have := (shrinks_distributeToUserLevel o _).2.2 a h
    exact this

/-- 公開の `listen` が表に足す address には、その listener を spawn する。 -/
theorem listen_listens {cfg : Config} {address : Multiaddr} {result : Except String Multiaddr}
    {s : Service} {a : Multiaddr} (h : a ∈ (listen cfg address result s).1.listens) :
    a ∈ s.listens ∨ Effect.spawn (.listener a) ∈ (listen cfg address result s).2.1 := by
  unfold listen at h ⊢
  split at h
  · exact .inl h
  · exact .inl h
  · rcases (AList.mem_insert _).mp h with rfl | h
    · exact .inr (by simp)
    · exact .inl h

theorem handleSessionEvent_listens {cfg : Config} {o : SendOracle} {e : SessionEvent}
    {s s' : Service} {out : List Effect} (he : handleSessionEvent cfg o e s = some (s', out))
    {a : Multiaddr} (h : a ∈ s'.listens) :
    (a ∈ s.listens ∧ ∀ err, e ≠ .listenError a err) ∨ Effect.spawn (.listener a) ∈ out := by
  cases e with
  | listenStart address =>
    simp only [handleSessionEvent, Option.some.injEq] at he
    obtain ⟨rfl, rfl⟩ := Prod.ext_iff.mp he
    rcases (AList.mem_insert _).mp (mem_tryUpdateListens_listens o _ h) with rfl | h
    · exact .inr (by simp [handleListenStart])
    · exact .inl ⟨h, fun _ => nofun⟩
  | listenError address error =>
    simp only [handleSessionEvent, Option.some.injEq] at he
    obtain ⟨rfl, rfl⟩ := Prod.ext_iff.mp he
    -- 動いていた listener の address は外れ、そうでない address は初めから表に無い
    refine .inl ⟨?_, fun err he => ?_⟩ <;> unfold handleListenError at h <;> split at h
    · exact (AList.mem_erase.mp h).2
    · exact h
    · exact (AList.mem_erase.mp h).1 (SessionEvent.listenError.inj he).1.symm
    · exact ‹address ∉ s.listens› ((SessionEvent.listenError.inj he).1 ▸ h)
  | _ => exact .inl ⟨(handleSessionEvent_shrunk o (fun _ => by simp) he).2.2 a h, fun _ => by simp⟩

theorem sessionPoll_listens {cfg : Config} {o : SendOracle} {ev : Option SessionEvent}
    {s s' : Service} {out : List Effect} {p : Bool} (hp : sessionPoll cfg o ev s = some (s', out, p))
    {a : Multiaddr} (h : a ∈ s'.listens) :
    (a ∈ s.listens ∧ (p = false → ∀ err, ev ≠ some (.listenError a err))) ∨
      Effect.spawn (.listener a) ∈ out := by
  unfold sessionPoll at hp
  split at hp
  · cases hp; exact .inl ⟨h, nofun⟩
  split at hp
  · obtain ⟨_, he, ⟨⟩⟩ := Option.map_eq_some'.mp hp
    exact (handleSessionEvent_listens he h).imp_left fun ⟨h, hne⟩ =>
      ⟨h, fun _ err hc => hne err (Option.some.inj hc)⟩
  · split at hp <;> cases hp
    exact .inl ⟨h, nofun⟩

/-- 一巡の後で表にある listen address は、前からあって、その巡が読んで処理した event がその
address の `ListenError` でないか、その巡でその listener を spawn したかである。 -/
theorem pollNext_listens {cfg : Config} {r : RoundInput} {s : Service} {res : RoundResult}
    (hp : pollNext cfg r s = some res) {a : Multiaddr} (h : a ∈ res.service.listens) :
    (a ∈ s.listens ∧ (res.sessionReady = true → ∀ err, r.event ≠ some (.listenError a err))) ∨
      Effect.spawn (.listener a) ∈ res.out := by
  unfold pollNext at hp
  split at hp
  · cases hp; exact .inl ⟨h, nofun⟩
  simp only [pollBody, Option.map_map, Option.map_eq_some'] at hp
  obtain ⟨b, hb, hres⟩ := hp
  -- 初期化と flush と listen の更新は address を足さない
  have hpre : ∀ x, x ∈ (Op.seq (flushBuffer r.oracle) (tryUpdateListens r.oracle)
      (if s.futureTaskManager then initProtoHandles cfg { s with futureTaskManager := false }
        else s)).1.listens → x ∈ s.listens := fun x hx => by
    rw [Op.seq_fst] at hx
    have := (shrinks_flushBuffer r.oracle _).2.2 x (mem_tryUpdateListens_listens r.oracle _ hx)
    split at this <;> exact this
  simp only [Function.comp_apply] at hres
  have hres' : res.service.listens = (userTaskPoll cfg r.oracle r.task b.1).1.listens ∧
      res.sessionReady = !b.2.2 ∧ ∀ e ∈ b.2.1, e ∈ res.out := by
    split at hres <;> subst hres <;> exact ⟨rfl, rfl, fun e he => by simp [he]⟩
  rw [hres'.1] at h
  rcases sessionPoll_listens hb ((userTaskPoll_shrunk cfg r.oracle r.task _).2.2 a h) with
    ⟨h, hne⟩ | hm
  · exact .inl ⟨hpre a h, fun hr => hne (by simpa [hres'.2.1] using hr)⟩
  · exact .inr (hres'.2.2 _ hm)

/-! ## future -/

/-- `Session` の future は、自分の id の `SessionClose` を送って止まるか、走り続けるかである。 -/
theorem react_session {id : SessionId} {hd : Handle}
    {snd : List (ProtocolId × List SessionProtocolEvent)} {op : List String} {outcome : Outcome}
    {ev : Option SessionEvent} {ts : List FutureTask}
    (h : react (.session id hd snd op) outcome = some (ev, ts)) :
    ev = some (.sessionClose id) ∨ FutureTask.session id hd snd op ∈ ts := by
  cases outcome <;> simp only [react, reduceCtorEq] at h
  · obtain ⟨rfl, -⟩ := Prod.ext_iff.mp (Option.some.inj h); exact .inl rfl
  · split at h <;> cases h
    exact .inr (List.mem_singleton_self _)

/-- listener は、自分の address の `ListenError` を送って止まるか、走り続けるかである。 -/
theorem react_listener {l : Multiaddr} {outcome : Outcome} {ev : Option SessionEvent}
    {ts : List FutureTask} (h : react (.listener l) outcome = some (ev, ts)) :
    (∃ err, ev = some (.listenError l err)) ∨ FutureTask.listener l ∈ ts := by
  cases outcome <;> simp only [react, reduceCtorEq, Option.some.injEq, Prod.mk.injEq] at h
  · obtain ⟨rfl, -⟩ := h; exact .inl ⟨_, rfl⟩
  · obtain ⟨-, rfl⟩ := h; exact .inr (List.mem_cons_self _ _)

theorem mem_spawned {t : FutureTask} {out : List Effect} (h : Effect.spawn t ∈ out) :
    t ∈ spawned out :=
  List.mem_filterMap.mpr ⟨_, h, rfl⟩

/-- `i` 番目の future を外して `ts` を足しても、他の future は残る。 -/
theorem mem_eraseIdx_append {α : Type} {l ts : List α} {i : Nat} {x t : α} (hx : x ∈ l)
    (ht : l[i]? = some t) (hts : x = t → x ∈ ts) : x ∈ l.eraseIdx i ++ ts := by
  by_cases hxt : x = t
  · exact List.mem_append_right _ (hts hxt)
  · obtain ⟨j, hj⟩ := List.mem_iff_getElem?.mp hx
    refine List.mem_append_left _ (List.mem_eraseIdx_iff_getElem?.mpr ⟨j, ?_, hj⟩)
    rintro rfl
    exact hxt (Option.some.inj (hj.symm.trans ht))

/-! ## 表の key を支える future -/

/-- 表の key が runtime の future に支えられていることを、一歩ずつ示すための条件。
`runs a t` は future `t` が key `a` を支えること、`ends a e` は支える future が止まるときに
送る event である。 -/
structure Backing (cfg : Config) {α : Type} (key : Service → α → Prop)
    (runs : α → FutureTask → Prop) (ends : α → SessionEvent → Prop) : Prop where
  /-- 支える future は、`a` を終える event を送って止まるか、走り続ける。 -/
  stops {a : α} {t : FutureTask} {outcome : Outcome} {ev : Option SessionEvent}
    {ts : List FutureTask} : runs a t → react t outcome = some (ev, ts) →
      (∃ e, ev = some e ∧ ends a e) ∨ t ∈ ts
  /-- 一巡の後の key は、前からあって読んで処理した event がそれを終えるものでないか、
  その巡で支える future を spawn したもの。 -/
  round {r : RoundInput} {s : Service} {res : RoundResult} {a : α} :
    pollNext cfg r s = some res → key res.service a →
      (key s a ∧ (res.sessionReady = true → ∀ e, r.event = some e → ¬ ends a e)) ∨
        ∃ t, runs a t ∧ Effect.spawn t ∈ res.out
  listenCall {address : Multiaddr} {result : Except String Multiaddr} {s : Service} {a : α} :
    key (listen cfg address result s).1 a →
      key s a ∨ ∃ t, runs a t ∧ Effect.spawn t ∈ (listen cfg address result s).2.1
  dialCall {address : Multiaddr} {target : TargetProtocol}
    {result : Except String (Multiaddr × Handle)} {s : Service} {a : α} :
    key (dial cfg address target result s).1 a → key s a

namespace Backing

variable {cfg : Config} {α : Type} {key : Service → α → Prop} {runs : α → FutureTask → Prop}
  {ends : α → SessionEvent → Prop} (hB : Backing cfg key runs ends)
include hB

/-- 一歩の後も、表の key はどれも走っている future に支えられている。 -/
theorem next {w w' : World} {i : WorldInput} (hw : ∀ a, key w.service a → ∃ t ∈ w.tasks, runs a t)
    (hn : w.next cfg i = some w') : ∀ a, key w'.service a → ∃ t ∈ w'.tasks, runs a t := by
  -- 前からの key の future が残るか、この一歩が spawn した future が支える
  have apply {tasks : List FutureTask} {s' : Service} {out : List Effect} {a : α}
      (hk : (∃ x ∈ w.tasks, runs a x) → ∃ x ∈ tasks, runs a x)
      (h : key s' a → key w.service a ∨ ∃ t, runs a t ∧ Effect.spawn t ∈ out) (ha : key s' a) :
      ∃ t ∈ (w.apply tasks s' out).tasks, runs a t := by
    rcases h ha with h | ⟨t, hrun, hm⟩
    · obtain ⟨x, hx, hrun⟩ := hk (hw a h)
      exact ⟨x, List.mem_append_left _ hx, hrun⟩
    · exact ⟨t, List.mem_append_right _ (mem_spawned hm), hrun⟩
  cases i with
  | background i outcome =>
    simp only [World.next, Option.bind_eq_bind, Option.bind_eq_some] at hn
    obtain ⟨t, ht, hn⟩ := hn
    split at hn <;> cases hn
    rename_i ts hr
    intro a h
    obtain ⟨x, hx, hrun⟩ := hw a h
    refine ⟨x, mem_eraseIdx_append hx ht fun hxt => ?_, hrun⟩
    subst hxt
    exact (hB.stops hrun hr).resolve_left fun ⟨_, he, _⟩ => nomatch he
  | round sender task oracle =>
    rcases sender with _ | ⟨i, outcome⟩
    · simp only [World.next, Option.map_eq_some'] at hn
      obtain ⟨r, hr, rfl⟩ := hn
      exact fun a => apply id fun h => (hB.round hr h).imp_left And.left
    · simp only [World.next, Option.bind_eq_bind, Option.bind_eq_some] at hn
      obtain ⟨t, ht, hn⟩ := hn
      split at hn
      · rename_i e ts hreact
        obtain ⟨r, hr, hn⟩ := Option.bind_eq_some.mp hn
        split at hn <;> cases hn
        rename_i hready
        intro a h
        rcases hB.round hr h with ⟨h, hne⟩ | ⟨x, hrun, hm⟩
        · -- 読んだ event は `a` を終えないので、`t` が `a` を支えていても走り続ける
          refine apply (fun ⟨x, hx, hrun⟩ => ⟨x, mem_eraseIdx_append hx ht fun hxt => ?_, hrun⟩)
            (fun _ => .inl h) ‹_›
          subst hxt
          exact (hB.stops hrun hreact).resolve_left fun ⟨e', he', hend⟩ => hne hready e' he' hend
        · exact ⟨x, List.mem_append_right _ (mem_spawned hm), hrun⟩
      · cases hn
  | listen address result =>
    simp only [World.next, Option.some.injEq] at hn
    subst hn
    exact fun a => apply id hB.listenCall
  | dial address target result =>
    simp only [World.next, Option.some.injEq] at hn
    subst hn
    exact fun a => apply id fun h => .inl (hB.dialCall h)

/-- 作ったばかりの service の表が空なら、どの時点でも表の key は走っている future に
支えられている。 -/
theorem reachable {forever : Bool} (h₀ : ∀ a, ¬ key (Service.new forever) a) {w : World}
    (h : WorldReachable cfg forever w) : ∀ a, key w.service a → ∃ t ∈ w.tasks, runs a t := by
  induction h with
  | init => exact fun a h => absurd h (h₀ a)
  | step _ _ hn ih => exact hB.next ih hn

end Backing

/-! ## session と listener -/

theorem sessions_backing (cfg : Config) : Backing cfg (fun s id => id ∈ s.sessions)
    (fun id t => ∃ hd snd op, t = .session id hd snd op) (fun id e => e = .sessionClose id) where
  stops := by
    rintro id t outcome ev ts ⟨hd, snd, op, rfl⟩ hr
    exact (react_session hr).imp_left fun h => ⟨_, h, rfl⟩
  round hp h := (pollNext_sessions hp h).imp
    (fun ⟨h, hne⟩ => ⟨h, fun hr _ he hend => hne hr (he.trans (congrArg some hend))⟩)
    fun ⟨hd, snd, op, hm⟩ => ⟨_, ⟨hd, snd, op, rfl⟩, hm⟩
  listenCall h := .inl (((quiet_listen _ _ _).mem_sessions _ _).mp h)
  dialCall h := ((quiet_dial _ _ _ _).mem_sessions _ _).mp h

theorem listens_backing (cfg : Config) : Backing cfg (fun s a => a ∈ s.listens)
    (fun a t => t = .listener a) (fun a e => ∃ err, e = .listenError a err) where
  stops := by
    rintro a t outcome ev ts rfl hr
    exact (react_listener hr).imp_left fun ⟨err, h⟩ => ⟨_, h, err, rfl⟩
  round hp h := (pollNext_listens hp h).imp
    (fun ⟨h, hne⟩ => ⟨h, fun hr _ he ⟨err, hend⟩ => hne hr err (he.trans (congrArg some hend))⟩)
    fun hm => ⟨_, rfl, hm⟩
  listenCall h := (listen_listens h).imp_right fun hm => ⟨_, rfl, hm⟩
  dialCall h := by unfold dial at h; split at h <;> exact h

/-- どの時点でも、`sessions` にある session には、それぞれ自分の id の `Session` の future が
runtime で走っている。`Session` の future が止まるときに送る `SessionClose` は、読まれた巡で
その session を表から外すので、表に残った session の future が先に無くなることはない。
`World` は future の最後の送信と、それを読む service の巡を一歩にまとめるので、ここで走っている
future には、止まって最後の event をまだ読まれていないものも入る。 -/
theorem sessionsRunning_reachable {cfg : Config} {forever : Bool} {w : World}
    (h : WorldReachable cfg forever w) :
    ∀ id ∈ w.service.sessions, ∃ hd snd op, FutureTask.session id hd snd op ∈ w.tasks := by
  intro id hid
  obtain ⟨_, ht, hd, snd, op, rfl⟩ :=
    (sessions_backing cfg).reachable (fun _ h => by simp [Service.new] at h) h id hid
  exact ⟨hd, snd, op, ht⟩

/-- 例の run で開いた session の future は走っている。 -/
theorem sessionsRunning_demo :
    demoWorld.service.sessions.len = 1 ∧
      ∀ id ∈ demoWorld.service.sessions, ∃ hd snd op, FutureTask.session id hd snd op ∈ demoWorld.tasks :=
  ⟨by decide, sessionsRunning_reachable demoWorld_reachable⟩

/-- どの時点でも、`listens` にある address には、それぞれその listener が runtime で走っている。
listener が止まるときに送る `ListenError` は、読まれた巡でその address を表から外す。
走っている listener には、止まって `ListenError` をまだ読まれていないものも入る
（`sessionsRunning_reachable` と同じ）。 -/
theorem listenersRunning_reachable {cfg : Config} {forever : Bool} {w : World}
    (h : WorldReachable cfg forever w) : ∀ a ∈ w.service.listens, FutureTask.listener a ∈ w.tasks := by
  intro a ha
  obtain ⟨_, ht, rfl⟩ :=
    (listens_backing cfg).reachable (fun _ h => by simp [Service.new] at h) h a ha
  exact ht

/-- 例の run の listen address の listener は走っている。 -/
theorem listenersRunning_demo :
    demoWorld.service.listens.len = 1 ∧
      ∀ a ∈ demoWorld.service.listens, FutureTask.listener a ∈ demoWorld.tasks :=
  ⟨by decide, listenersRunning_reachable demoWorld_reachable⟩

/-! ## 試みの数 -/

/-- dial か listen の試みの future。outbound の handshake は dial の試みの続きである。 -/
def FutureTask.isAttempt : FutureTask → Bool
  | .dial _ | .listen _ => true
  | .handshake _ ty _ _ => ty.isOutbound
  | _ => false

/-- まだ終わっていない dial と listen の試みの数。runtime に渡った future と、
`future_task_sender` に積まれてまだ渡っていない future を数える。 -/
def World.attemptsInFlight (w : World) : Nat :=
  (w.tasks ++ w.service.futureTaskSender.items).countP (·.isAttempt)

/-- `/ip4/1/tcp/81` で listen して service を生かしたまま、`/ip4/1/tcp/80` の `Listen` task を
二つ送る。一つ目の試みは bind し、二つ目は address が使われていて失敗する。 -/
def listenTwiceTrace : List WorldInput :=
  [.listen [.ip4 1, .tcp 81] (.ok [.ip4 1, .tcp 81]),
   .round none (some (.normal, .listen [.ip4 1, .tcp 80])) .ok,
   .round none (some (.normal, .listen [.ip4 1, .tcp 80])) .ok,
   .round (some (1, .bind [.ip4 1, .tcp 80])) none .ok,
   .round (some (1, .fail "address in use")) none .ok]

/-- shutdown の前に、終わっていない試みが無いのに pending が 1 のまま残る。二つ目の試みの
`ListenError` は、address が `listens` にあるので止まった listener のものとされ、pending を
減らさない。 -/
theorem pending_ne_attemptsInFlight :
    ∃ w, WorldReachable demoConfig false w ∧ w.service.state.shutdown = false ∧
      w.service.state.pending = 1 ∧ w.attemptsInFlight = 0 := by
  obtain ⟨w, hw, hp⟩ := WorldReachable.exists_of_run demoConfig false listenTwiceTrace
    (fun w => !w.service.state.shutdown && w.service.state.pending == 1 &&
      w.attemptsInFlight == 0) (by decide)
  exact ⟨w, hw, by simpa [and_assoc] using hp⟩

/-- 同じ run で、`/ip4/1/tcp/80` の listener は動いているのに、その address は `listens` から
外れ、`ListenClose` が handle に渡っている。 -/
theorem listenClose_while_listening :
    ∃ w a, WorldReachable demoConfig false w ∧ w.service.state.shutdown = false ∧
      FutureTask.listener a ∈ w.tasks ∧ a ∉ w.service.listens ∧
      Effect.event (.listenClose a) ∈ w.log := by
  obtain ⟨w, hw, hp⟩ := WorldReachable.exists_of_run demoConfig false listenTwiceTrace
    (fun w => !w.service.state.shutdown && w.tasks.contains (.listener [.ip4 1, .tcp 80]) &&
      !decide ([.ip4 1, .tcp 80] ∈ w.service.listens) &&
      w.log.contains (.event (.listenClose [.ip4 1, .tcp 80]))) (by decide)
  exact ⟨w, [.ip4 1, .tcp 80], hw, by simpa [and_assoc] using hp⟩

/-! ## dial の記録 -/

/-- `/ip4/1/tcp/81` で listen して service を生かしたまま、transport が扱えない
`/ip4/9` への `Dial` task を送る。 -/
def dialUnsupportedTrace : List WorldInput :=
  [.listen [.ip4 1, .tcp 81] (.ok [.ip4 1, .tcp 81]),
   .round none (some (.normal, .dial [.ip4 9] .all)) .ok]

/-- transport が同期に断った dial の記録が `dial_protocols` に残り、終わっていない試みは無い。
同じ address への次の `Dial` task は、何も報告せず、試みも始めずに捨てられる。 -/
theorem dialProtocols_stale :
    ∃ w a, WorldReachable demoConfig false w ∧ w.service.state.shutdown = false ∧
      a ∈ w.service.dialProtocols ∧ w.attemptsInFlight = 0 ∧
      ∃ w', w.next demoConfig (.round none (some (.normal, .dial a .all)) .ok) = some w' ∧
        w'.log = w.log ∧ w'.attemptsInFlight = 0 := by
  obtain ⟨w, hw, hp⟩ := WorldReachable.exists_of_run demoConfig false dialUnsupportedTrace
    (fun w => !w.service.state.shutdown && decide ([.ip4 9] ∈ w.service.dialProtocols) &&
      w.attemptsInFlight == 0 &&
      (w.next demoConfig (.round none (some (.normal, .dial [.ip4 9] .all)) .ok)).any
        fun w' => w'.log == w.log && w'.attemptsInFlight == 0) (by decide)
  simp only [Bool.and_eq_true, Bool.not_eq_true', decide_eq_true_eq, beq_iff_eq] at hp
  obtain ⟨⟨⟨hs, hd⟩, ha⟩, hn⟩ := hp
  obtain ⟨w', hw', hn⟩ := Option.exists_of_any hn
  simp only [Bool.and_eq_true, beq_iff_eq] at hn
  exact ⟨w, _, hw, hs, hd, ha, w', hw', hn⟩

end Tentacle
