/-
# The restoring of a session

At the start a client asks the backend whom it remembers, and where the answer brings a
token without its user, it asks once more who that is. Then it makes one change of the
session: it signs in whom it has found, or it ends loading. `restoring_goes` says this of
every restoring, with what others do to the session while the requests are under way.

So the session never loads afterwards, and where nobody was found it is the one that the
others have made, with loading ended. That is not always the session of someone who is
signed out: where others have signed in, or somebody was signed in before, the client
reports that nobody is signed in all the same.
-/

import Mathlib.Data.List.Induction
import SignedAccess.Proofs.Backend.Exchanges
import SignedAccess.Proofs.Session.Account

namespace SignedAccess

open Json

/-! ### Loading and logins in a run -/

namespace LogEntry

theorem loading_change (entry : LogEntry) {session : Session} (hended : session.loading = false) :
    (entry.change session).loading = false := by
  unfold change
  split
  · rfl
  · simp only [hended, Bool.false_and]

/-- Someone is signed in after the entries of a log, where that was so before them or not. -/
def leavesSignedIn (before : Bool) (log : List LogEntry) : Bool :=
  (sinceCleared log).any signsIn || before && !log.any clears

theorem leavesSignedIn_nil (before : Bool) : leavesSignedIn before [] = before := by
  simp [leavesSignedIn, sinceCleared]

theorem leavesSignedIn_concat (before : Bool) (log : List LogEntry) (entry : LogEntry) :
    leavesSignedIn before (log ++ [entry]) =
      (!entry.clears && (leavesSignedIn before log || entry.signsIn)) := by
  cases hclears : entry.clears with
  | true => simp [leavesSignedIn, sinceCleared_concat, hclears]
  | false =>
      simp only [leavesSignedIn, sinceCleared_concat, hclears, List.any_append, List.any_cons,
        List.any_nil, Bool.or_false, Bool.not_false, Bool.true_and, if_neg Bool.false_ne_true]
      rw [Bool.or_right_comm]

theorem authenticated_change (entry : LogEntry) (session : Session) :
    (entry.change session).authenticated =
      (!entry.clears && (session.authenticated || entry.signsIn)) := by
  unfold change
  cases hclears : entry.clears <;> rfl

end LogEntry

namespace Store

/-- A session that loads no more does not load again. -/
theorem loading_run {store : Store} (hended : store.session.loading = false)
    (events : List SessionEvent) : (store.run events).session.loading = false := by
  induction events generalizing store with
  | nil => exact hended
  | cons event events ih =>
      apply ih
      rw [session_apply]
      exact LogEntry.loading_change _ hended

/-- Who is signed in after a run is told by its log. -/
theorem authenticated_run (store : Store) (events : List SessionEvent) :
    (store.run events).session.authenticated =
      LogEntry.leavesSignedIn store.session.authenticated (store.log events) := by
  induction events using List.reverseRecOn with
  | nil => exact (LogEntry.leavesSignedIn_nil _).symm
  | append_singleton events event ih =>
      rw [run_append, log_append, log_cons, log_nil, LogEntry.leavesSignedIn_concat, ← ih,
        run_cons, run_nil, session_apply, LogEntry.authenticated_change]

theorem session_setLoading_false (store : Store) :
    (store.setLoading false).session = { store.session with loading := false } := by
  cases hloading : store.session.loading with
  | true => simp [setLoading, revise, hloading]
  | false =>
      rw [setLoading, if_pos (Or.inl hloading), ← hloading]

theorem generation_setLoading (store : Store) (loading : Bool) :
    (store.setLoading loading).generation = store.generation := by
  unfold setLoading
  split <;> rfl

end Store

theorem Session.phase_of_not_loading {session : Session} (hended : session.loading = false) :
    session.phase = if session.authenticated then .authenticated else .unauthenticated := by
  rw [phase, hended, if_neg Bool.false_ne_true]

namespace BackendClient

/-! ### Whom the backend remembers -/

/-- The ways in which a client asks whom the backend remembers, by its exchanges and what
it finds. -/
inductive Recall (client : BackendClient) :
    List (Exchanged SessionEvent) → Except BackendFault (User × AccessToken) → Prop
  | unanswered {restore fault} (horder : restore.order = Errand.restore.order client none)
      (hfault : restore.payload = .error fault) : Recall client [restore] (.error fault)
  | known {restore token user} (horder : restore.order = Errand.restore.order client none)
      (hpayload : restore.payload = .ok ⟨token, some user⟩) :
      Recall client [restore] (.ok (user, token))
  | identified {restore identify token} (horder : restore.order = Errand.restore.order client none)
      (hpayload : restore.payload = .ok ⟨token, none⟩)
      (hidentify : identify.order = (Errand.identify token).order client none) :
      Recall client [restore, identify]
        ((readOutcome User.read identify.outcome).map fun user => (user, token))

/-- The change of the session after a client has asked whom the backend remembers. -/
def settle : Except BackendFault (User × AccessToken) → SessionEvent
  | .ok (user, token) => .setAuth user token
  | .error _ => .setLoading false

/-- What a client reports of whom the backend remembers. -/
def report : Except BackendFault (User × AccessToken) → Except BackendFault Phase
  | .ok _ => .ok .authenticated
  | .error .unauthorized => .ok .unauthenticated
  | .error fault => .error fault

section

variable (client : BackendClient) (talk : Talk Store SessionEvent)

theorem order_errandExchange (errand : Errand) :
    (client.errandExchange talk errand).order =
      errand.order client talk.session.session.token := rfl

/-- Asking whom the backend remembers is one errand or two. -/
theorem recall_of_remembered :
    ∃ errands : List Errand,
      (client.remembered .alone talk).1 = client.play talk (errands.map .ask) ∧
        Recall client (client.exchanges talk (errands.map .ask))
          (client.remembered .alone talk).2 := by
  have hpost := @postRefresh_of_ask client talk .restore none rfl
  have horder : (client.errandExchange talk .restore).order = Errand.restore.order client none := by
    rw [order_errandExchange]
    rfl
  rw [remembered, hpost, outcome_ask]
  cases hpayload : refreshPayload (client.errandExchange talk .restore).outcome with
  | error fault =>
      refine ⟨[.restore], ?_⟩
      simp only [List.map_cons, List.map_nil, exchanges_ask, exchanges_nil, play_ask, play_nil]
      exact ⟨trivial, .unanswered horder hpayload⟩
  | ok payload =>
      obtain ⟨token, _ | user⟩ := payload
      · let asked := (client.ask talk .restore).1
        have hidentify : (client.errandExchange asked (.identify token)).order =
            (Errand.identify token).order client none := by
          rw [order_errandExchange]
          rfl
        have hrecall := Recall.identified horder hpayload hidentify
        refine ⟨[.restore, .identify token], ?_⟩
        simp only [fetchMe_alone, outcome_ask, List.map_cons, List.map_nil, exchanges_ask,
          exchanges_nil, play_ask, play_nil]
        -- a user that is read and one that is not end alike
        cases huser : readOutcome User.read
          (client.errandExchange asked (.identify token)).outcome <;>
        · rw [huser] at hrecall
          exact ⟨rfl, hrecall⟩
      · refine ⟨[.restore], ?_⟩
        simp only [List.map_cons, List.map_nil, exchanges_ask, exchanges_nil, play_ask, play_nil]
        exact ⟨trivial, .known horder hpayload⟩

theorem bootstrap_alone :
    client.bootstrap .alone talk =
      (happen (client.remembered .alone talk).1 (settle (client.remembered .alone talk).2),
        report (client.remembered .alone talk).2) := by
  rw [bootstrap]
  rcases client.remembered .alone talk with ⟨asked, fault | ⟨user, token⟩⟩
  · cases fault <;> rfl
  · rfl

/-- A restoring asks whom the backend remembers and makes one change of the session that
the others have left. -/
theorem restoring_goes (store : Store) (line : Line SessionEvent) :
    let restoring := client.bootstrap .alone ⟨store, line, []⟩
    let orders := restoring.1.journal.reverse.map (·.2)
    let exchanges := line.exchanges manner orders
    let met := store.run (exchanges.flatMap (·.meanwhile))
    ∃ found, Recall client exchanges found ∧ restoring.2 = report found ∧
      restoring.1.session = (met.apply (settle found)).1 ∧
      restoring.1.line = line.after manner orders := by
  obtain ⟨errands, hplay, hrecall⟩ := client.recall_of_remembered ⟨store, line, []⟩
  have hends := client.endsAfter_play ⟨store, line, []⟩ (errands.map .ask)
  have hexchanges := client.exchanges_play store line (errands.map .ask)
  have hsession := client.session_play_asks ⟨store, line, []⟩ errands
  rw [← hplay] at hends hexchanges hsession
  rw [bootstrap_alone]
  generalize client.remembered .alone ⟨store, line, []⟩ = asked
    at hrecall hends hexchanges hsession ⊢
  intro restoring orders exchanges met
  have hrequests : exchanges = client.exchanges ⟨store, line, []⟩ (errands.map .ask) := hexchanges
  refine ⟨asked.2, hrequests ▸ hrecall, rfl, ?_, ?_⟩
  · rw [session_happen, hsession, ← hrequests]
  · exact hends.line_eq.trans (congrArg (line.after manner) hends.orders_eq.symm)

end

namespace Recall

variable {client : BackendClient} {exchanges : List (Exchanged SessionEvent)}
  {found : Except BackendFault (User × AccessToken)} (hrecall : Recall client exchanges found)

include hrecall

theorem length_le : exchanges.length ≤ 2 := by
  cases hrecall <;> simp

theorem first_order : exchanges[0]?.map (·.order) = some (Errand.restore.order client none) := by
  cases hrecall with
  | unanswered horder _ => exact congrArg some horder
  | known horder _ => exact congrArg some horder
  | identified horder _ _ => exact congrArg some horder

/-- The second exchange asks who the token belongs to that came without its user. -/
theorem of_second {identify : Exchanged SessionEvent} (hsecond : exchanges[1]? = some identify) :
    ∃ restore token, exchanges[0]? = some restore ∧ restore.payload = .ok ⟨token, none⟩ ∧
      identify.order = (Errand.identify token).order client none := by
  cases hrecall with
  | unanswered _ _ => cases hsecond
  | known _ _ => cases hsecond
  | identified _ hpayload hidentify =>
      cases hsecond
      exact ⟨_, _, rfl, hpayload, hidentify⟩

/-- The exchanges alone tell what is found. -/
theorem found_eq {other : Except BackendFault (User × AccessToken)}
    (hother : Recall client exchanges other) : other = found := by
  cases hrecall with
  | unanswered _ hfault =>
      cases hother with
      | unanswered _ hagain => rw [Except.error.inj (hagain.symm.trans hfault)]
      | known _ hagain => cases hagain.symm.trans hfault
  | known _ hpayload =>
      cases hother with
      | unanswered _ hagain => cases hagain.symm.trans hpayload
      | known _ hagain =>
          cases hagain.symm.trans hpayload
          rfl
  | identified _ hpayload _ =>
      cases hother with
      | identified _ hagain _ =>
          cases hagain.symm.trans hpayload
          rfl

/-- Nobody is reported to be signed in exactly when the last request was refused. -/
theorem report_eq_unauthenticated_iff :
    report found = .ok .unauthenticated ↔
      ∃ last, exchanges.getLast? = some last ∧ isRefused last.outcome = true := by
  have hreport : report found = .ok .unauthenticated ↔ found = .error .unauthorized := by
    rcases found with fault | ⟨user, token⟩
    · cases fault <;> simp [report]
    · simp [report]
  rw [hreport]
  -- the last request is the one whose answer was read for what was found
  cases hrecall with
  | @unanswered restore fault _ hfault =>
      have hlast := @readOutcome_eq_unauthorized_iff _ RefreshPayload.record.readAll restore.outcome
      rw [← Exchanged.payload, hfault] at hlast
      simpa using hlast
  | @known restore token user _ hpayload =>
      have hlast := @readOutcome_eq_unauthorized_iff _ RefreshPayload.record.readAll restore.outcome
      rw [← Exchanged.payload, hpayload] at hlast
      simpa using hlast
  | @identified restore identify token _ _ _ =>
      have hlast := @readOutcome_eq_unauthorized_iff _ User.read identify.outcome
      cases huser : readOutcome User.read identify.outcome <;>
      · rw [huser] at hlast
        simpa [Except.map] using hlast

end Recall

/-- Nobody is signed in by a restoring that finds nobody: it ends loading, and the rest is
as the others have left it. -/
theorem apply_settle_of_not_found {found : Except BackendFault (User × AccessToken)}
    (hnobody : report found ≠ .ok .authenticated) (met : Store) :
    (met.apply (settle found)).1 = met.setLoading false := by
  cases found with
  | error fault => rfl
  | ok whom => exact absurd rfl hnobody

theorem loading_apply_settle (found : Except BackendFault (User × AccessToken)) (met : Store) :
    (met.apply (settle found)).1.session.loading = false := by
  cases found with
  | error fault => exact congrArg Session.loading met.session_setLoading_false
  | ok whom => rfl

end BackendClient

/-! ### Restoring ends loading -/

open BackendClient in
/-- After a restoring the session does not load, whatever was answered and whatever others
have done, so its phase is never resolving again. At most two requests are sent, and the
second only where the first was answered by a payload without a user. Whoever is found is
signed in. Where nobody is found, the restoring has done nothing to the session but end its
loading: all else is as the others have left it. -/
theorem restoring_ends_loading (client : BackendClient) (store : Store)
    (line : Line SessionEvent) :
    let restoring := client.bootstrap .alone ⟨store, line, []⟩
    let after := restoring.1.session
    let orders := restoring.1.journal.reverse.map (·.2)
    let exchanges := line.exchanges manner orders
    let met := store.run (exchanges.flatMap (·.meanwhile))
    (after.session.loading = false ∧ ∀ more, (after.run more).session.phase ≠ .resolving) ∧
    (restoring.1.line = line.after manner orders ∧ orders.length ≤ 2 ∧
      restoring.1.line.seen.length ≤ line.seen.length + orders.length ∧
      orders[0]? = some (Errand.restore.order client none) ∧
      ∀ second, orders[1]? = some second → ∃ restore token, exchanges[0]? = some restore ∧
        Brings RefreshPayload.record.readAll restore.outcome ⟨token, none⟩ ∧
        second = (Errand.identify token).order client none) ∧
    (∀ user token, Recall client exchanges (.ok (user, token)) →
      restoring.2 = .ok .authenticated ∧ after = met.setAuth user token) ∧
    (restoring.2 ≠ .ok .authenticated → after = met.setLoading false ∧
      after.session = { met.session with loading := false } ∧
      after.generation = met.generation) := by
  obtain ⟨found, hrecall, hreport, hsession, hline⟩ := client.restoring_goes store line
  generalize client.bootstrap .alone ⟨store, line, []⟩ = restoring
    at hrecall hreport hsession hline ⊢
  intro restoring after orders exchanges met
  have hafter : after = (met.apply (settle found)).1 := hsession
  have horders : exchanges.map (·.order) = orders := Line.orders_exchanges line manner orders
  refine ⟨?_, ⟨hline, ?_, ?_, ?_, ?_⟩, ?_, ?_⟩
  · have hended : after.session.loading = false := by
      rw [hafter]
      exact loading_apply_settle found met
    refine ⟨hended, fun more => ?_⟩
    rw [Session.phase_of_not_loading (Store.loading_run hended more)]
    split <;> nofun
  · rw [← horders, List.length_map]
    exact hrecall.length_le
  · rw [hline]
    exact line.length_seen_after manner orders
  · rw [← horders, List.getElem?_map]
    exact hrecall.first_order
  · intro second hsecond
    rw [← horders, List.getElem?_map, Option.map_eq_some_iff] at hsecond
    obtain ⟨identify, hidentify, rfl⟩ := hsecond
    obtain ⟨restore, token, hrestore, hpayload, horder⟩ := hrecall.of_second hidentify
    exact ⟨restore, token, hrestore, readOutcome_eq_ok_iff.1 hpayload, horder⟩
  · intro user token hfound
    obtain rfl := hrecall.found_eq hfound
    exact ⟨hreport, hafter⟩
  · intro hnobody
    rw [hafter, apply_settle_of_not_found (hreport ▸ hnobody)]
    exact ⟨rfl, met.session_setLoading_false, met.generation_setLoading false⟩

/-! ### The phase that is reported -/

/-- The phase after the change that follows a reported phase. -/
theorem BackendClient.phase_apply_settle {found : Except BackendFault (User × AccessToken)}
    {phase : Phase} (hreport : report found = .ok phase) (met : Store) :
    (met.apply (settle found)).1.session.phase =
      if phase = .unauthenticated ∧ met.session.authenticated = true then .authenticated
      else phase := by
  cases found with
  | ok whom =>
      cases hreport
      rfl
  | error fault =>
      have hunauthenticated : phase = .unauthenticated := by
        cases fault <;> cases hreport
        rfl
      subst hunauthenticated
      rw [Session.phase_of_not_loading (loading_apply_settle (.error fault) met), settle,
        Store.apply, Store.session_setLoading_false]
      simp only [true_and]

open BackendClient in
/-- Where a restoring reports a phase, it reports that nobody is signed in exactly when its
last request was refused. The phase that it reports is the session's, unless it is that one
and yet someone is signed in by what the session was before and what others did meanwhile,
and then the session's phase says so. -/
theorem reported_phase_is_session_phase_iff (client : BackendClient) (store : Store)
    (line : Line SessionEvent) (phase : Phase)
    (hreported : (client.bootstrap .alone ⟨store, line, []⟩).2 = .ok phase) :
    let after := (client.bootstrap .alone ⟨store, line, []⟩).1
    let exchanges := line.exchanges manner (after.journal.reverse.map (·.2))
    let others := store.log (exchanges.flatMap (·.meanwhile))
    let signedIn := LogEntry.leavesSignedIn store.session.authenticated others
    (phase = .unauthenticated ↔
      ∃ last, exchanges.getLast? = some last ∧ isRefused last.outcome = true) ∧
    (after.session.session.phase = phase ↔ ¬(phase = .unauthenticated ∧ signedIn = true)) ∧
    (after.session.session.phase ≠ phase → after.session.session.phase = .authenticated) := by
  obtain ⟨found, hrecall, hreport, hsession, -⟩ := client.restoring_goes store line
  generalize client.bootstrap .alone ⟨store, line, []⟩ = restoring
    at hreported hrecall hreport hsession ⊢
  intro after exchanges others signedIn
  have hphase : report found = .ok phase := hreport.symm.trans hreported
  have hafter : after.session.session.phase =
      if phase = .unauthenticated ∧ signedIn = true then .authenticated else phase := by
    rw [hsession, phase_apply_settle hphase, Store.authenticated_run]
  rw [hafter]
  refine ⟨?_, ?_, ?_⟩
  · rw [← hrecall.report_eq_unauthenticated_iff, hphase, Except.ok.injEq]
  · split
    · rename_i hdiffers
      rw [hdiffers.1]
      exact iff_of_false nofun (not_not_intro ⟨rfl, hdiffers.2⟩)
    · rename_i hagrees
      exact iff_of_true rfl hagrees
  · split
    · exact fun _ => rfl
    · exact fun hne => absurd rfl hne

/-- Others sign in and out again while nobody is remembered: the reported phase is the
session's. -/
theorem reported_phase_after_visit :
    let client : BackendClient := ⟨"http://[::1]:9000", {}⟩
    let line : Line SessionEvent := .ofTurns true
      [⟨[.setAuth { id := "7" } ⟨"new"⟩, .logout], .reply ⟨401, [], none⟩⟩]
    (client.bootstrap .alone ⟨.initial, line, []⟩).2 = .ok .unauthenticated ∧
      (client.bootstrap .alone ⟨.initial, line, []⟩).1.session.session.phase =
        .unauthenticated := by
  intro client line
  have hreported : (client.bootstrap .alone ⟨.initial, line, []⟩).2 = .ok .unauthenticated := by
    decide +kernel
  obtain ⟨-, hagrees, -⟩ := reported_phase_is_session_phase_iff client .initial line _ hreported
  refine ⟨hreported, hagrees.2 ?_⟩
  decide +kernel

/-- Others sign in while the backend says that nobody is signed in: that is reported, and
the session's phase is the other one. So it is where somebody was signed in before. -/
theorem reported_phase_is_not_session_phase :
    let client : BackendClient := ⟨"http://[::1]:9000", {}⟩
    let login : SessionEvent := .setAuth { id := "7" } ⟨"new"⟩
    let restoring (store : Store) (meanwhile : List SessionEvent) :=
      client.bootstrap .alone
        ⟨store, .ofTurns true [⟨meanwhile, .reply ⟨401, [], none⟩⟩], []⟩
    let met := restoring Store.initial [login]
    let kept := restoring (Store.initial.run [login]) []
    met.2 = .ok .unauthenticated ∧ met.1.session.session.phase = .authenticated ∧
      kept.2 = .ok .unauthenticated ∧ kept.1.session.session.phase = .authenticated := by
  intro client login restoring met kept
  have hmet : met.2 = .ok .unauthenticated ∧ met.1.session.session.phase = .authenticated := by
    decide +kernel
  have hkept : kept.2 = .ok .unauthenticated ∧ kept.1.session.session.phase = .authenticated := by
    decide +kernel
  exact ⟨hmet.1, hmet.2, hkept⟩

end SignedAccess
