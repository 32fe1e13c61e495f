import UrlRouting.Dispatcher

/-! # Sessions

A session is a sequence of calls of a dispatcher. Its host may change from one call to the next:
what it answers may depend on all that was done before, so that every choice of successes and
failures is the choice of some host.

* `Dispatches`: the rules for one call, one rule for each way that it can go. A rule says which
  effects the call has, and with which result it ends.
* `Serves`: the rules for a session.
* `Dispatcher.serves_iff`: what a dispatcher does in a session is what the rules allow. -/

namespace UrlRouting

/-- A call of a dispatcher. -/
structure Call where
  url : String
  extra : Parameters

/-- What a call did to the world, and how it ended. -/
abbrev Reply := List Effect × Except RoutingError Outcome

/-! ### The rules -/

/-- Whether a URL that no entry fits goes to another program. -/
def Policy.HandsOver (policy : Policy) (url : String) : Prop :=
  policy.handOver = true ∧ Url.hasScheme url = true

/-- **The rules for one call**, which goes one of seven ways. If the host fails, its error is the
result, whatever error it is and whatever the policy. -/
inductive Dispatches (dispatcher : Dispatcher) (call : Call) : Reply → Prop where
  | called {found : Resolution} {callback : Callback}
      (hfound : dispatcher.router.resolve call.url call.extra = .ok found)
      (hhandler : found.handler = .callback callback) :
      Dispatches dispatcher call ([.call callback found.params], .ok .called)
  | shown {found : Resolution} {view : ViewId}
      (hfound : dispatcher.router.resolve call.url call.extra = .ok found)
      (hhandler : found.handler = .view view)
      (hhost : dispatcher.host.showView view found.params found.presentation = .ok ()) :
      Dispatches dispatcher call
        ([.showView view found.params found.presentation], .ok (.shown view))
  | notShown {found : Resolution} {view : ViewId} {error : RoutingError}
      (hfound : dispatcher.router.resolve call.url call.extra = .ok found)
      (hhandler : found.handler = .view view)
      (hhost : dispatcher.host.showView view found.params found.presentation = .error error) :
      Dispatches dispatcher call ([.showView view found.params found.presentation], .error error)
  | handedOver {miss : RoutingError}
      (hmiss : dispatcher.router.resolve call.url call.extra = .error miss)
      (hpolicy : dispatcher.policy.HandsOver call.url)
      (hhost : dispatcher.host.handOver call.url = .ok ()) :
      Dispatches dispatcher call ([.handOver call.url], .ok .handedOver)
  | notHandedOver {miss error : RoutingError}
      (hmiss : dispatcher.router.resolve call.url call.extra = .error miss)
      (hpolicy : dispatcher.policy.HandsOver call.url)
      (hhost : dispatcher.host.handOver call.url = .error error) :
      Dispatches dispatcher call ([.handOver call.url], .error error)
  | passedOver {miss : RoutingError}
      (hmiss : dispatcher.router.resolve call.url call.extra = .error miss)
      (hkept : ¬ dispatcher.policy.HandsOver call.url)
      (hpolicy : dispatcher.policy.passOver = true) :
      Dispatches dispatcher call ([], .ok .passedOver)
  | unmatched {miss : RoutingError}
      (hmiss : dispatcher.router.resolve call.url call.extra = .error miss)
      (hkept : ¬ dispatcher.policy.HandsOver call.url)
      (hpolicy : dispatcher.policy.passOver = false) :
      Dispatches dispatcher call ([], .error (.unmatched call.url))

/-- **The rules for a session** with some effects before it, which the host knows: each call follows
the rules for one call, and the calls after it come after its effects. -/
inductive Serves (router : Router) (policy : Policy) (host : List Effect → Host) :
    List Effect → List Call → List Reply → Prop where
  | nil {past : List Effect} : Serves router policy host past [] []
  | cons {past : List Effect} {call : Call} {calls : List Call} {reply : Reply}
      {replies : List Reply} (hcall : Dispatches ⟨router, host past, policy⟩ call reply)
      (hcalls : Serves router policy host (past ++ reply.1) calls replies) :
      Serves router policy host past (call :: calls) (reply :: replies)

/-! ### One call -/

/-- Routers fail in one way only. -/
theorem Router.error_of_resolve {router : Router} {url : String} {extra : Parameters}
    {miss : RoutingError} (h : router.resolve url extra = .error miss) : miss = .unmatched url := by
  rw [resolve] at h
  split at h
  · cases h
  · exact (Except.error.inj h).symm

namespace Dispatcher

/-- The reply of a dispatcher to a call. -/
def reply (dispatcher : Dispatcher) (call : Call) : Reply :=
  let run := dispatcher.dispatch call.url call.extra
  (run.effects, run.result)

section
variable {dispatcher : Dispatcher} {call : Call}

theorem reply_callback {found : Resolution} {callback : Callback}
    (hfound : dispatcher.router.resolve call.url call.extra = .ok found)
    (hhandler : found.handler = .callback callback) :
    dispatcher.reply call = ([.call callback found.params], .ok .called) := by
  simp [reply, dispatch, hfound, actOn, hhandler]

theorem reply_view {found : Resolution} {view : ViewId}
    (hfound : dispatcher.router.resolve call.url call.extra = .ok found)
    (hhandler : found.handler = .view view) :
    dispatcher.reply call = ([.showView view found.params found.presentation],
      (dispatcher.host.showView view found.params found.presentation).map fun _ => .shown view) := by
  simp [reply, dispatch, hfound, actOn, hhandler]

theorem reply_handOver {miss : RoutingError}
    (hmiss : dispatcher.router.resolve call.url call.extra = .error miss)
    (hpolicy : dispatcher.policy.HandsOver call.url) :
    dispatcher.reply call =
      ([.handOver call.url], (dispatcher.host.handOver call.url).map fun _ => .handedOver) := by
  obtain ⟨hhand, hscheme⟩ := hpolicy
  simp [reply, dispatch, hmiss, giveUp, hhand, hscheme, handOver]

theorem reply_kept {miss : RoutingError}
    (hmiss : dispatcher.router.resolve call.url call.extra = .error miss)
    (hkept : ¬ dispatcher.policy.HandsOver call.url) :
    dispatcher.reply call = ([],
      if dispatcher.policy.passOver then .ok .passedOver else .error (.unmatched call.url)) := by
  obtain rfl := Router.error_of_resolve hmiss
  have hcond : ¬ (dispatcher.policy.handOver && Url.hasScheme call.url) = true := by
    rwa [Bool.and_eq_true]
  simp only [reply, dispatch, hmiss, giveUp, if_neg hcond]
  cases dispatcher.policy.passOver <;> rfl

/-- What the rules allow is what the dispatcher does. -/
theorem reply_of_dispatches {reply : Reply} (h : Dispatches dispatcher call reply) :
    dispatcher.reply call = reply := by
  cases h with
  | called hfound hhandler => rw [reply_callback hfound hhandler]
  | shown hfound hhandler hhost => rw [reply_view hfound hhandler, hhost]; rfl
  | notShown hfound hhandler hhost => rw [reply_view hfound hhandler, hhost]; rfl
  | handedOver hmiss hpolicy hhost => rw [reply_handOver hmiss hpolicy, hhost]; rfl
  | notHandedOver hmiss hpolicy hhost => rw [reply_handOver hmiss hpolicy, hhost]; rfl
  | passedOver hmiss hkept hpolicy => rw [reply_kept hmiss hkept, if_pos hpolicy]
  | unmatched hmiss hkept hpolicy => rw [reply_kept hmiss hkept, hpolicy, if_neg (by simp)]

end

/-- **The rules allow what a dispatcher does**: there is one for every way that a call can go. -/
theorem dispatches_reply (dispatcher : Dispatcher) (call : Call) :
    Dispatches dispatcher call (dispatcher.reply call) := by
  cases hresolve : dispatcher.router.resolve call.url call.extra with
  | ok found =>
    cases hhandler : found.handler with
    | callback callback =>
      rw [reply_callback hresolve hhandler]
      exact .called hresolve hhandler
    | view view =>
      rw [reply_view hresolve hhandler]
      cases hhost : dispatcher.host.showView view found.params found.presentation with
      | ok => exact .shown hresolve hhandler hhost
      | error error => exact .notShown hresolve hhandler hhost
  | error miss =>
    by_cases hpolicy : dispatcher.policy.HandsOver call.url
    · rw [reply_handOver hresolve hpolicy]
      cases hhost : dispatcher.host.handOver call.url with
      | ok => exact .handedOver hresolve hpolicy hhost
      | error error => exact .notHandedOver hresolve hpolicy hhost
    · rw [reply_kept hresolve hpolicy]
      cases hpass : dispatcher.policy.passOver with
      | true => exact .passedOver hresolve hpolicy hpass
      | false => exact .unmatched hresolve hpolicy hpass

/-- **The rules for one call** are what the dispatcher does, and nothing else. -/
theorem dispatches_iff {dispatcher : Dispatcher} {call : Call} {reply : Reply} :
    Dispatches dispatcher call reply ↔ dispatcher.reply call = reply := by
  constructor
  · exact reply_of_dispatches
  · rintro rfl; exact dispatches_reply dispatcher call

end Dispatcher

theorem Dispatches.length_effects_le_one {dispatcher : Dispatcher} {call : Call} {reply : Reply}
    (h : Dispatches dispatcher call reply) : reply.1.length ≤ 1 := by
  cases h <;> simp

/-! ### Sessions -/

namespace Dispatcher

/-- The replies of a dispatcher with a changing host to some calls, one after the other, with some
effects before them. -/
def serve (router : Router) (policy : Policy) (host : List Effect → Host) :
    List Effect → List Call → List Reply
  | _, [] => []
  | past, call :: calls =>
    let reply := reply ⟨router, host past, policy⟩ call
    reply :: serve router policy host (past ++ reply.1) calls

section
variable {router : Router} {policy : Policy} {host : List Effect → Host}

theorem serves_serve (past : List Effect) (calls : List Call) :
    Serves router policy host past calls (serve router policy host past calls) := by
  induction calls generalizing past with
  | nil => exact .nil
  | cons call calls ih => exact .cons (dispatches_reply _ call) (ih _)

theorem serve_of_serves {past : List Effect} {calls : List Call} {replies : List Reply}
    (h : Serves router policy host past calls replies) :
    serve router policy host past calls = replies := by
  induction h with
  | nil => rfl
  | cons hcall _ ih => rw [serve, dispatches_iff.mp hcall, ih]

theorem length_effects_of_serves {past : List Effect} {calls : List Call} {replies : List Reply}
    (h : Serves router policy host past calls replies) :
    ∀ reply ∈ replies, reply.1.length ≤ 1 := by
  induction h with
  | nil => simp
  | cons hcall _ ih => exact List.forall_mem_cons.mpr ⟨hcall.length_effects_le_one, ih⟩

end

/-- **What a dispatcher does in a session.** Whatever the router, the policy, the host and the calls,
the replies of the dispatcher are what the rules allow, and nothing else is; and each call has at
most one effect. -/
theorem serves_iff (router : Router) (policy : Policy) (host : List Effect → Host)
    (past : List Effect) (calls : List Call) (replies : List Reply) :
    (Serves router policy host past calls replies ↔
      serve router policy host past calls = replies) ∧
    ∀ reply ∈ serve router policy host past calls, reply.1.length ≤ 1 := by
  refine ⟨⟨serve_of_serves, ?_⟩, length_effects_of_serves (serves_serve past calls)⟩
  rintro rfl
  exact serves_serve past calls

/-- A host that finds a view unmatched is believed, and a URL that no other program takes is
reported, though misses are passed over; the other URL without an entry is passed over. -/
example :
    let router : Router := .ofRoutes [⟨.ofFormat "users", .handler (.view ⟨"Users"⟩), {}⟩]
    let host (_ : List Effect) : Host := ⟨fun _ _ _ => .error (.unmatched "users"), Host.refuse⟩
    serve router { passOver := true } host [] [⟨"users", ∅⟩, ⟨"tel://1", ∅⟩, ⟨"tel", ∅⟩] =
      [([.showView ⟨"Users"⟩ ∅ {}], .error (.unmatched "users")),
        ([.handOver "tel://1"], .error (.noReceiver "tel://1")), ([], .ok .passedOver)] := by
  cbv

end Dispatcher

end UrlRouting
