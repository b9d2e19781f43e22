import Mathlib.Data.List.Induction
import Passcode.Proofs.Actions
import Passcode.Mail.Transport

/-!
# What goes over the wire for a message

The calls for a message stand in one order: connect, secure the connection, log in, hand the
message over (`Mailer.calls`). They are made up to the first one that fails (`Wire.made`), and a
connection that was made is closed once, whatever happened on it (`Mailer.run_exchange`). From
the order alone it follows that nothing is handed over on a connection that was to be secured and
was not (`Mailer.secured_before`), and that a message is handed over at most once.
-/

namespace Passcode

open Passcode.Action

/-! ## Calls one after another -/

namespace Wire

variable {w : Wire} {e : Exchange} {es : List Exchange}

/-- The calls of a sequence that are made: all up to the first that fails, and that one. -/
def made (w : Wire) : List Exchange → List Exchange
  | [] => []
  | e :: es => e :: if (w.failure? e.call).isSome then [] else w.made es

def failureOf? (w : Wire) (es : List Exchange) : Option Failure :=
  es.findSome? fun e => w.failure? e.call

/-- A wire on which some more calls were made. -/
def having (w : Wire) (es : List Exchange) : Wire := { w with transcript := w.transcript ++ es }

@[simp] theorem having_nil (w : Wire) : w.having [] = w := by simp [having]

@[simp] theorem having_having (w : Wire) (es fs : List Exchange) :
    (w.having es).having fs = w.having (es ++ fs) := by
  simp [having]

@[simp] theorem failure?_having (w : Wire) (es : List Exchange) :
    (w.having es).failure? = w.failure? := rfl

theorem failureOf?_having (w : Wire) (fs es : List Exchange) :
    (w.having fs).failureOf? es = w.failureOf? es := rfl

theorem made_having (w : Wire) (fs es : List Exchange) : (w.having fs).made es = w.made es := by
  induction es with
  | nil => rfl
  | cons e es ih => rw [made, made, ih, failure?_having]

/-- How calls end that leave a failure, or none. -/
def ending : Option Failure → Except Failure Unit
  | some f => .error f
  | none => .ok ()

theorem run_make (w : Wire) (e : Exchange) :
    (make e).run w = (ending (w.failure? e.call), w.having [e]) := by
  unfold make
  rw [run_bind_of_ok (run_get w), run_bind_of_ok (run_set w _)]
  cases w.failure? e.call <;> rfl

def makeAll : List Exchange → Action Wire Unit
  | [] => return ()
  | e :: es => do
    make e
    makeAll es

theorem run_makeAll (w : Wire) (es : List Exchange) :
    (makeAll es).run w = (ending (w.failureOf? es), w.having (w.made es)) := by
  induction es generalizing w with
  | nil => rw [made, having_nil]; rfl
  | cons e es ih =>
      rw [makeAll, run_bind, run_make]
      cases hf : w.failure? e.call with
      | some f => simp [made, failureOf?, hf, ending]
      | none =>
          rw [failureOf?, List.findSome?_cons, hf, made]
          dsimp only [ending]
          rw [ih, having_having, made_having, failureOf?_having, hf]
          rfl

/-- Of the calls of a sequence, those that are made are at its beginning. -/
theorem made_isPrefix (w : Wire) (es : List Exchange) : w.made es <+: es := by
  induction es with
  | nil => exact List.prefix_rfl
  | cons e es ih =>
      rw [made]
      split
      · exact ⟨es, rfl⟩
      · exact List.prefix_cons_inj e |>.mpr ih

/-- What comes after the first two calls comes after the second, and only if that one did not
fail. -/
theorem second_before {c d e : Exchange} {rest tail before after : List Exchange}
    (h : w.made (c :: d :: rest) ++ tail = before ++ e :: after) (hc : e ≠ c) (hd : e ≠ d)
    (htail : e ∉ tail) : d ∈ before ∧ w.failure? d.call = none := by
  have hmem : e ∈ w.made (c :: d :: rest) ++ tail := by simp [h]
  rw [made, made] at h hmem
  cases hfirst : w.failure? c.call with
  | some f => simp [hfirst, hc, htail] at hmem
  | none =>
      cases hsecond : w.failure? d.call with
      | some f => simp [hfirst, hsecond, hc, hd, htail] at hmem
      | none =>
          refine ⟨?_, rfl⟩
          rw [hfirst, hsecond] at h
          match before, h with
          | [], h => exact absurd (List.cons.inj h).1.symm hc
          | [_], h => exact absurd (List.cons.inj (List.cons.inj h).2).1.symm hd
          | _ :: d' :: _, h =>
              obtain rfl : d = d' := (List.cons.inj (List.cons.inj h).2).1
              simp

/-- No call of a sequence fails exactly if none of those that are made does. -/
theorem failureOf?_eq_none_iff (w : Wire) (es : List Exchange) :
    w.failureOf? es = none ↔ ∀ e ∈ w.made es, w.failure? e.call = none := by
  induction es with
  | nil => simp [made, failureOf?]
  | cons e es ih =>
      rw [failureOf?, List.findSome?_cons, made]
      cases hf : w.failure? e.call with
      | some f => simp [hf]
      | none =>
          rw [failureOf?] at ih
          simpa only [Option.isSome_none, Bool.false_eq_true, ↓reduceIte, List.forall_mem_cons, hf,
            true_and] using ih

end Wire

/-! ## The calls for a message -/

namespace Mailer

variable {m : Mailer} {message : Message} {w : Wire}

def talk (m : Mailer) (message : Message) : List Exchange :=
  (if m.encryption = .starttls then [.starttls] else [])
    ++ (if m.authenticate.isTrue then [.login m.username m.password] else []) ++ [.send message]

def calls (m : Mailer) (message : Message) : List Exchange :=
  .connect (m.encryption = .ssl) m.host m.port m.timeout :: m.talk message

theorem session_eq_makeAll (m : Mailer) (message : Message) :
    m.session message = Wire.makeAll (m.talk message) := by
  have hlast : ∀ e, Wire.makeAll [e] = Wire.make e := fun e => by
    simp only [Wire.makeAll, bind_pure_unit]
  have hmore : ∀ d e es,
      Wire.makeAll (d :: e :: es) = Wire.make d >>= fun _ => Wire.makeAll (e :: es) :=
    fun _ _ _ => rfl
  unfold session talk
  by_cases hsecure : m.encryption = .starttls <;> by_cases hlogin : m.authenticate.isTrue = true <;>
    simp only [hsecure, hlogin, Bool.false_eq_true, ↓reduceIte, List.cons_append, List.nil_append,
      hlast, hmore]

/-- The close of a connection, if one was made. -/
def closing (w : Wire) : List Exchange := if w.failure? .connect = none then [.close] else []

/-- The failure that is left in the end: that of the close where it fails, else the earlier one. -/
def escaping? (m : Mailer) (message : Message) (w : Wire) : Option Failure :=
  match w.failure? .connect with
  | some f => some f
  | none => (w.failure? .close).or (w.failureOf? (m.talk message))

theorem run_exchange (m : Mailer) (message : Message) (w : Wire) : (m.exchange message).run w =
    (Wire.ending (m.escaping? message w),
      w.having (w.made (m.calls message) ++ closing w)) := by
  unfold exchange
  rw [run_bind, Wire.run_make, calls, Wire.made, escaping?, closing]
  have hconnecting : (Exchange.connect (m.encryption = .ssl) m.host m.port m.timeout).call =
    .connect := rfl
  rw [hconnecting]
  cases w.failure? .connect with
  | some f => simp [Wire.ending]
  | none =>
      dsimp only [Wire.ending]
      rw [run_bind, run_attempt, session_eq_makeAll, Wire.run_makeAll]
      dsimp only
      rw [run_bind, Wire.run_make, Wire.failureOf?_having, Wire.made_having, Wire.having_having,
        Wire.having_having]
      have hclosing : Exchange.close.call = .close := rfl
      rw [hclosing, Wire.failure?_having]
      cases w.failure? .close with
      | some f => simp [Wire.ending]
      | none => simp [Wire.ending]

/-- What sending comes to that leaves a failure, or none. Only a failed connection counts as a
failed delivery. -/
def verdict (recipients : List String) : Option Failure → Except Failure Receipt
  | none => .ok ⟨.email, recipients⟩
  | some (.network _ text) => .error (.refused (.mailFailed "email" text))
  | some f => .error f

theorem sendOver_of_composed {recipients : List String} {r : Record} (hsome : recipients ≠ [])
    (hcompose : m.compose recipients r = .ok message) (world : World) (w : Wire) :
    ((m.sendOver recipients r).run (world, w)).1 = verdict recipients (m.escaping? message w) ∧
      ((m.sendOver recipients r).after (world, w)).2 =
        w.having (w.made (m.calls message) ++ closing w) := by
  have hattempt : ((m.exchange message).on Prod.snd fun s v => (s.1, v)).attempt.run (world, w) =
      (.ok (Wire.ending (m.escaping? message w)),
        (world, w.having (w.made (m.calls message) ++ closing w))) := by
    rw [run_attempt, run_on, run_exchange]
  unfold after sendOver send
  rw [if_neg (by simpa using hsome), hcompose, run_bind_of_ok (run_lift _ _),
    run_bind_of_ok hattempt]
  cases m.escaping? message w with
  | none => exact ⟨rfl, rfl⟩
  | some f => cases f <;> exact ⟨rfl, rfl⟩

/-! ## What follows from the order -/

theorem escaping?_eq_none_iff : m.escaping? message w = none ↔
    ∀ e ∈ w.made (m.calls message) ++ closing w, w.failure? e.call = none := by
  rw [escaping?, calls, Wire.made, closing]
  have hconnecting : (Exchange.connect (m.encryption = .ssl) m.host m.port m.timeout).call =
    .connect := rfl
  have hclosing : Exchange.close.call = .close := rfl
  rw [hconnecting]
  cases hconnect : w.failure? .connect with
  | some f => simp [hconnecting, hconnect]
  | none =>
      simp only [Option.or_eq_none_iff, Wire.failureOf?_eq_none_iff, Option.isSome_none,
        Bool.false_eq_true, ↓reduceIte, List.cons_append, List.forall_mem_cons,
        List.forall_mem_append, hconnecting, hconnect, hclosing, List.not_mem_nil, true_and,
        false_implies, implies_true, and_true]
      exact and_comm

/-- A message is handed over at most once. -/
theorem countP_send_le (m : Mailer) (message : Message) (w : Wire) :
    (w.made (m.calls message) ++ closing w).countP (·.call = .send) ≤ 1 := by
  have hprefix := (Wire.made_isPrefix w (m.calls message)).sublist.countP_le
    (p := fun e => decide (e.call = .send))
  have hcalls : (m.calls message).countP (·.call = .send) = 1 := by
    unfold calls talk
    split <;> split <;> simp [Exchange.call]
  have hclosing : (closing w).countP (·.call = .send) = 0 := by
    unfold closing
    split <;> simp [Exchange.call]
  rw [List.countP_append]
  omega

/-- On a connection that is to be secured first, nothing is handed over before it is. -/
theorem secured_before (hsecure : m.encryption = .starttls) {before after : List Exchange}
    {e : Exchange} (h : w.made (m.calls message) ++ closing w = before ++ e :: after)
    (he : e.call = .login ∨ e.call = .send) :
    .starttls ∈ before ∧ w.failure? .starttls = none := by
  have hcalls : ∃ rest, m.calls message =
      .connect (m.encryption = .ssl) m.host m.port m.timeout :: .starttls :: rest := by
    unfold calls talk
    rw [if_pos hsecure]
    exact ⟨_, rfl⟩
  obtain ⟨rest, hcalls⟩ := hcalls
  rw [hcalls] at h
  refine Wire.second_before h ?_ ?_ ?_
  · rintro rfl
    simp [Exchange.call] at he
  · rintro rfl
    simp [Exchange.call] at he
  · unfold closing
    split <;> intro hmem <;> simp at hmem
    subst hmem
    simp [Exchange.call] at he

/-! ## All of it -/

/-- How a message goes over a wire: the calls `es` that are made for it, and the answer. -/
structure Conducted (m : Mailer) (recipients : List String) (message : Message) (w : Wire)
    (answer : Except Failure Receipt) (es : List Exchange) : Prop where
  order : es = w.made (m.calls message) ++ closing w
  secured : m.encryption = .starttls → ∀ before e after, es = before ++ e :: after →
    e.call = .login ∨ e.call = .send → .starttls ∈ before ∧ w.failure? .starttls = none
  wrapped : ∀ secure host port timeout, .connect secure host port timeout ∈ es →
    (secure = true ↔ m.encryption = .ssl)
  once : es.countP (·.call = .send) ≤ 1
  received : ∀ x, answer = .ok x ↔ x = ⟨.email, recipients⟩ ∧ ∀ e ∈ es, w.failure? e.call = none
  failed : ∀ fault text, m.escaping? message w = some (.network fault text) →
    answer = .error (.refused (.mailFailed "email" text))
  escaped : ∀ f, m.escaping? message w = some f → (∀ fault text, f ≠ .network fault text) →
    answer = .error f

theorem conducted (m : Mailer) (recipients : List String) (message : Message) (w : Wire) :
    Conducted m recipients message w (verdict recipients (m.escaping? message w))
      (w.made (m.calls message) ++ closing w) where
  order := rfl
  secured hsecure _ _ _ h he := secured_before hsecure h he
  wrapped secure host port timeout h := by
    have hcall : .connect secure host port timeout ∈ m.calls message := by
      refine (List.mem_append.mp h).elim (fun h => (Wire.made_isPrefix w _).subset h) fun h => ?_
      unfold closing at h
      split at h <;> simp at h
    have hsecure : secure = decide (m.encryption = .ssl) := by
      unfold calls talk at hcall
      split at hcall <;> split at hcall <;> simp at hcall <;> exact hcall.1
    rw [hsecure, decide_eq_true_iff]
  once := countP_send_le m message w
  received x := by
    rw [← escaping?_eq_none_iff]
    cases hf : m.escaping? message w with
    | none => simp [verdict, eq_comm]
    | some f => cases f <;> simp [verdict]
  failed fault text h := by rw [h]; rfl
  escaped f h hf := by
    rw [h]
    cases f with
    | network fault text => exact absurd rfl (hf fault text)
    | _ => rfl

/-- Sending follows one order, whatever fails. Without recipients, or where no message can be
composed, nothing happens. Else the calls are made in their order up to the first that fails, and
a connection is closed once; a delivery counts as made exactly if no call failed, as failed if a
failure of the connection is left, and any other failure is passed on. -/
theorem sends_in_order (m : Mailer) (recipients : List String) (r : Record) (world : World)
    (w : Wire) :
    (recipients = [] → (m.sendOver recipients r).run (world, w) =
      (.error (.refused (.noRecipients "email")), (world, w))) ∧
    (∀ f, recipients ≠ [] → m.compose recipients r = .error f →
      (m.sendOver recipients r).run (world, w) = (.error f, (world, w))) ∧
    ∀ message, recipients ≠ [] → m.compose recipients r = .ok message →
      ∃ es, ((m.sendOver recipients r).after (world, w)).2 = w.having es ∧
        Conducted m recipients message w ((m.sendOver recipients r).run (world, w)).1 es := by
  refine ⟨?_, fun f hsome hcompose => ?_, fun message hsome hcompose => ?_⟩
  · rintro rfl
    rfl
  · unfold sendOver send
    rw [if_neg (by simpa using hsome), hcompose, run_bind_of_error (run_lift _ _)]
  · obtain ⟨hanswer, hwire⟩ := sendOver_of_composed hsome hcompose world w
    exact ⟨_, hwire, hanswer ▸ conducted m recipients message w⟩

/-- The server refuses the password, and then the connection breaks down while it is closed. The
message is not handed over, and the second failure is the one that is left. -/
theorem refused_login_conducted :
    ∃ (m : Mailer) (r : Record) (message : Message) (world : World) (w : Wire)
      (es : List Exchange),
      m = ⟨.text "otp@example.com", .text "localhost", .int 25, .starttls, .text "otp", .text "pw",
        .bool true, .float 10, .text usualSubject, .text "Code: $OTP"⟩ ∧
      m.compose ["ada@example.com"] r = .ok message ∧
      w.failure? .login = some (.network .mail "535 no") ∧
      w.failure? .close = some (.broken "gone") ∧
      es = [.connect false (.text "localhost") (.int 25) (.float 10), .starttls,
        .login (.text "otp") (.text "pw"), .close] ∧
      ((m.sendOver ["ada@example.com"] r).run (world, w)).1 = .error (.broken "gone") ∧
      Conducted m ["ada@example.com"] message w
        ((m.sendOver ["ada@example.com"] r).run (world, w)).1 es := by
  have hcompose : Mailer.compose ⟨.text "otp@example.com", .text "localhost", .int 25, .starttls,
      .text "otp", .text "pw", .bool true, .float 10, .text usualSubject, .text "Code: $OTP"⟩
      ["ada@example.com"] ⟨"482913", ⟨0, by decide⟩⟩ = .ok ⟨"One-time password",
        "otp@example.com", "ada@example.com", "Code: 482913\n"⟩ := by decide +kernel
  obtain ⟨es, -, hconducted⟩ := (sends_in_order _ ["ada@example.com"] _ { now := ⟨0, by decide⟩ }
    ⟨[], fun
      | .login => some (.network .mail "535 no")
      | .close => some (.broken "gone")
      | _ => none⟩).2.2 _ (List.cons_ne_nil _ _) hcompose
  have hanswer := hconducted.escaped (.broken "gone") rfl nofun
  obtain rfl := hconducted.order
  exact ⟨_, _, _, _, _, _, rfl, hcompose, rfl, rfl, rfl, hanswer, hconducted⟩

end Mailer

end Passcode
