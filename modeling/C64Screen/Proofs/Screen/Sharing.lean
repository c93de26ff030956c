import C64Screen.Proofs.Screen.Reallocation
import C64Screen.Unchecked.Call

/-!
# Shared buffers

Whoever keeps a reference to the buffer of a screen has that buffer in common with the screen, for as long as
the screen does not get a new one. Until then it makes no difference through which of the two something is
done to it. From then on the screen and the kept buffer go their own ways: each is what its own turns have made
of it, and no turn of the one leaves a trace on the other. Which of the two it is can be told from the numbers:
the number kept never changes, and the number in use grows with each new buffer.
-/

namespace C64Screen

/-- What can be done to a buffer, be it with arguments of the right kinds or of any. -/
inductive Deed where
  | write (w : Write)
  | call (c : Unchecked.Call)

namespace Deed

def run (b : Buffer) : Deed → Buffer
  | .write w => (w.run b).1
  | .call c => (c.run b).buffer

def runAll (b : Buffer) (deeds : List Deed) : Buffer := deeds.foldl run b

end Deed

/-- A turn in a session in which a buffer is kept. -/
inductive Turn where
  | screen (step : Screen.Step)
  /-- A deed on the buffer in use, by way of the screen. -/
  | buffer (d : Deed)
  | kept (d : Deed)

namespace Turn

/-- The same turn, by way of the screen. -/
def viaScreen : Turn → Turn
  | .kept d => .buffer d
  | turn => turn

def keptDeed? : Turn → Option Deed
  | .kept d => some d
  | _ => none

end Turn

/-- A screen that knows nothing of a kept buffer. -/
def Screen.take (s : Screen) : Turn → Screen
  | .screen step => step.after s
  | .buffer d => { s with buffer := d.run s.buffer }
  | .kept _ => s

def Screen.takeAll (s : Screen) (turns : List Turn) : Screen := turns.foldl take s

namespace Session

def doTo (s : Session) (number : Nat) : Deed → Session
  | .write w => (s.writeTo number w).1
  | .call c => ((s.call? number c).map Prod.fst).getD s

def take (s : Session) : Turn → Session
  | .screen step => s.after (.screen step)
  | .buffer d => s.doTo s.current d
  | .kept d =>
    match s.kept with
    | some number => s.doTo number d
    | none => s

def takeAll (s : Session) (turns : List Turn) : Session := turns.foldl take s

@[simp] theorem takeAll_nil (s : Session) : s.takeAll [] = s := rfl

@[simp] theorem takeAll_cons (s : Session) (turn : Turn) (turns : List Turn) :
    s.takeAll (turn :: turns) = (s.take turn).takeAll turns := rfl

@[simp] theorem takeAll_append (s : Session) (before later : List Turn) :
    s.takeAll (before ++ later) = (s.takeAll before).takeAll later := List.foldl_append

/-- A step that makes a new buffer is carried out. -/
def Renews (s : Session) (step : Screen.Step) : Prop :=
  step.Reallocates ∧ ∃ t events, step.run s.screen = .ok (t, events)

/-- Among some turns there is one that makes a new buffer. -/
def Renewed (s : Session) (turns : List Turn) : Prop :=
  ∃ before step later, turns = before ++ .screen step :: later ∧ (s.takeAll before).Renews step

/-- The kept buffer is the one in use. -/
def Shares (s : Session) : Prop := s.kept = some s.current

/-- The kept buffer is one that was in use before. -/
def Apart (s : Session) : Prop := ∃ number < s.current, s.kept = some number

theorem keptIsCurrent_iff {s : Session} : s.keptIsCurrent = true ↔ s.Shares := by
  simp [keptIsCurrent, Shares]

theorem Apart.not_shares {s : Session} (apart : s.Apart) : ¬ s.Shares := by
  obtain ⟨number, below, kept⟩ := apart
  intro shares
  rw [Shares, kept] at shares
  cases shares
  omega

theorem keep_shares (s : Session) : s.keep.Shares := rfl

/-! Deeds. -/

theorem buffer?_current (s : Session) : s.buffer? s.current = some s.screen.buffer := if_pos rfl

theorem buffer?_retired {s : Session} {number : Nat} (below : number < s.current) :
    s.buffer? number = s.retired[number]? := if_neg (Nat.ne_of_lt below)

theorem doTo_current (s : Session) (d : Deed) :
    s.doTo s.current d = { s with screen := s.screen.take (.buffer d) } := by
  cases d with
  | write w => simp [doTo, writeTo, Screen.write, Screen.take, Deed.run]
  | call c => simp [doTo, call?, buffer?_current, setBuffer, Screen.take, Deed.run]

theorem doTo_retired {s : Session} {number : Nat} {b : Buffer} (below : number < s.current)
    (found : s.retired[number]? = some b) (d : Deed) :
    s.doTo number d = { s with retired := s.retired.setIfInBounds number (d.run b) } := by
  have other : number ≠ s.current := Nat.ne_of_lt below
  cases d with
  | write w => simp [doTo, writeTo, other, found, Deed.run]
  | call c => simp [doTo, call?, buffer?_retired below, found, setBuffer, other, Deed.run]

/-! Steps. -/

theorem take_of_renews {s : Session} {step : Screen.Step} (renews : s.Renews step) :
    s.take (.screen step) =
      { s with screen := step.after s.screen, retired := s.retired.push s.screen.buffer } := by
  obtain ⟨reallocates, t, events, ran⟩ := renews
  simp only [take, after, Session.step, Screen.Step.after, ran]
  simp [bind, Except.bind, pure, Except.pure, reallocates]

theorem take_of_not_renews {s : Session} {step : Screen.Step} (stays : ¬ s.Renews step) :
    s.take (.screen step) = { s with screen := step.after s.screen } := by
  simp only [take, after, Session.step, Screen.Step.after]
  cases ran : step.run s.screen with
  | ok result =>
    have draws : ¬ step.Reallocates := fun reallocates => stays ⟨reallocates, _, _, ran⟩
    simp [bind, Except.bind, pure, Except.pure, draws]
  | error e => simp [bind, Except.bind]

/-! As long as the buffer is shared. -/

/-- Where the kept buffer is the one in use, a turn on it is a turn by way of the screen. -/
theorem Shares.take_viaScreen {s : Session} (shares : s.Shares) (turn : Turn) :
    s.take turn.viaScreen = s.take turn := by
  rw [Shares] at shares
  cases turn with
  | kept d => simp [take, Turn.viaScreen, shares]
  | screen step => rfl
  | buffer d => rfl

theorem Shares.kept? {s : Session} (shares : s.Shares) : s.kept? = some s.screen.buffer := by
  rw [Shares] at shares
  simp [Session.kept?, shares, buffer?_current]

/-- Turns that make no new buffer leave the screen as what it is by itself. -/
theorem Shares.take_eq {s : Session} (shares : s.Shares) {turn : Turn}
    (stays : ∀ step, turn = .screen step → ¬ s.Renews step) :
    s.take turn = { s with screen := s.screen.take turn.viaScreen } := by
  rw [← shares.take_viaScreen]
  cases turn with
  | screen step => exact take_of_not_renews (stays step rfl)
  | buffer d => exact s.doTo_current d
  | kept d => exact s.doTo_current d

theorem Shares.take {s : Session} (shares : s.Shares) {turn : Turn}
    (stays : ∀ step, turn = .screen step → ¬ s.Renews step) : (s.take turn).Shares := by
  rw [shares.take_eq stays]
  exact shares

/-- With a new buffer the kept one is left behind as it is. -/
theorem Shares.parts {s : Session} (shares : s.Shares) {step : Screen.Step} (renews : s.Renews step) :
    let t := s.take (.screen step)
    t.Apart ∧ t.kept? = some s.screen.buffer ∧ t.screen = step.after s.screen := by
  intro t
  rw [Shares] at shares
  have parted : t = _ := take_of_renews renews
  have grown : t.current = s.current + 1 := by simp [parted, current]
  have kept : t.kept = some s.current := by rw [parted]; exact shares
  have below : s.current < t.current := by omega
  refine ⟨⟨s.current, below, kept⟩, ?_, by rw [parted]⟩
  simp only [Session.kept?, kept, Option.bind_some, buffer?_retired below]
  simp [parted, current]

/-! Once the kept buffer is another one. -/

theorem Apart.take_kept {s : Session} (apart : s.Apart) (d : Deed) :
    let t := s.take (.kept d)
    t.Apart ∧ t.kept? = s.kept?.map (d.run ·) ∧ t.screen = s.screen := by
  obtain ⟨number, below, kept⟩ := apart
  have bound : number < s.retired.size := below
  let b := s.retired[number]
  have found : s.retired[number]? = some b := Array.getElem?_eq_getElem bound
  intro t
  have done : t = { s with retired := s.retired.setIfInBounds number (d.run b) } := by
    rw [← doTo_retired below found]
    simp [t, Session.take, kept]
  have still : number < t.current := by simpa [done, current] using bound
  have keeps : t.kept = some number := by rw [done]; exact kept
  refine ⟨⟨number, still, keeps⟩, ?_, by rw [done]⟩
  simp only [Session.kept?, keeps, kept, Option.bind_some, buffer?_retired below, buffer?_retired still,
    found]
  simp [done, bound]

/-- A session that goes on with another screen, and perhaps more buffers out of use, keeps what it has
kept. -/
theorem Apart.goes_on {s t : Session} (apart : s.Apart) (kept : t.kept = s.kept)
    (still : ∀ number < s.current, t.retired[number]? = s.retired[number]?)
    (grows : s.current ≤ t.current) : t.Apart ∧ t.kept? = s.kept? := by
  obtain ⟨number, below, is_number⟩ := apart
  have later : number < t.current := by omega
  refine ⟨⟨number, later, kept.trans is_number⟩, ?_⟩
  simp only [Session.kept?, kept, is_number, Option.bind_some, buffer?_retired below,
    buffer?_retired later, still number below]

theorem Apart.take_other {s : Session} (apart : s.Apart) {turn : Turn} (other : turn.keptDeed? = none) :
    let t := s.take turn
    t.Apart ∧ t.kept? = s.kept? ∧ t.screen = s.screen.take turn := by
  intro t
  cases turn with
  | kept d => cases other
  | buffer d =>
    have done : t = _ := s.doTo_current d
    have on := apart.goes_on (t := t) (by rw [done]) (by simp [done]) (by simp [done, current])
    exact ⟨on.1, on.2, by rw [done]⟩
  | screen step =>
    by_cases renews : s.Renews step
    · have done : t = _ := take_of_renews renews
      have still : ∀ number < s.current, t.retired[number]? = s.retired[number]? := by
        intro number below
        rw [done]
        exact Array.getElem?_push_lt (h := below) ▸ (Array.getElem?_eq_getElem below).symm
      have on := apart.goes_on (t := t) (by rw [done]) still (by simp [done, current])
      exact ⟨on.1, on.2, by rw [done]; rfl⟩
    · have done : t = _ := take_of_not_renews renews
      have on := apart.goes_on (t := t) (by rw [done]) (by simp [done]) (by simp [done, current])
      exact ⟨on.1, on.2, by rw [done]; rfl⟩

/-- Kept buffer and screen each follow their own turns. -/
theorem Apart.takeAll {s : Session} (apart : s.Apart) (turns : List Turn) :
    let t := s.takeAll turns
    t.Apart ∧ t.kept? = s.kept?.map (Deed.runAll · (turns.filterMap Turn.keptDeed?)) ∧
      t.screen = s.screen.takeAll turns := by
  induction turns generalizing s with
  | nil => simp [Deed.runAll, Screen.takeAll, apart]
  | cons turn rest ih =>
    cases own : turn.keptDeed? with
    | none =>
      obtain ⟨still, kept, screen⟩ := apart.take_other own
      obtain ⟨last, keptLast, screenLast⟩ := ih still
      refine ⟨last, ?_, ?_⟩
      · rw [takeAll_cons, keptLast, kept, List.filterMap_cons_none own]
      · rw [takeAll_cons, screenLast, screen]
        rfl
    | some d =>
      obtain rfl : turn = .kept d := by
        cases turn <;> simp_all [Turn.keptDeed?]
      obtain ⟨still, kept, screen⟩ := apart.take_kept d
      obtain ⟨last, keptLast, screenLast⟩ := ih still
      refine ⟨last, ?_, ?_⟩
      · rw [takeAll_cons, keptLast, kept, List.filterMap_cons_some own, Option.map_map]
        rfl
      · rw [takeAll_cons, screenLast, screen]
        rfl

/-! A whole run. -/

theorem Renewed.of_cons {s : Session} {turn : Turn} {turns : List Turn}
    (renewed : s.Renewed (turn :: turns)) :
    (∃ step, turn = .screen step ∧ s.Renews step) ∨ (s.take turn).Renewed turns := by
  obtain ⟨before, step, later, split, renews⟩ := renewed
  cases before with
  | nil =>
    cases split
    exact .inl ⟨step, rfl, renews⟩
  | cons first before =>
    cases split
    exact .inr ⟨before, step, later, rfl, renews⟩

/-- Either the buffer is shared throughout, or there is a first turn that makes a new one. -/
theorem Shares.takeAll {s : Session} (shares : s.Shares) (turns : List Turn) :
    ((s.takeAll turns).Shares ∧ ¬ s.Renewed turns ∧
      s.takeAll turns = s.takeAll (turns.map Turn.viaScreen)) ∨
    ∃ before step later, turns = before ++ .screen step :: later ∧
      (s.takeAll before).Shares ∧ (s.takeAll before).Renews step := by
  induction turns generalizing s with
  | nil =>
    refine .inl ⟨shares, ?_, rfl⟩
    rintro ⟨before, step, later, split, -⟩
    cases before <;> cases split
  | cons turn rest ih =>
    by_cases now : ∃ step, turn = .screen step ∧ s.Renews step
    · obtain ⟨step, rfl, renews⟩ := now
      exact .inr ⟨[], step, rest, rfl, shares, renews⟩
    · have stays : ∀ step, turn = .screen step → ¬ s.Renews step :=
        fun step is_step renews => now ⟨step, is_step, renews⟩
      rcases ih (shares.take stays) with ⟨still, never, same⟩ | ⟨before, step, later, rfl, first⟩
      · refine .inl ⟨still, ?_, ?_⟩
        · intro renewed
          rcases renewed.of_cons with now' | later
          · exact now now'
          · exact never later
        · rw [List.map_cons, takeAll_cons, takeAll_cons, shares.take_viaScreen]
          exact same
      · exact .inr ⟨turn :: before, step, later, rfl, first⟩

theorem take_plain (s : Session) (log : List Log.Event) (step : Screen.Step) :
    ∃ later, (s.plain log).after step = (s.take (.screen step)).plain later := by
  simp only [PlainScreen.after, runFrom_perform, take, after]
  cases s.step step with
  | ok result => exact ⟨_, rfl⟩
  | error e => exact ⟨_, rfl⟩

/-- The kept buffer is the one in use until the first step that makes a new one is carried out. Until then a
deed on either is that deed on both. Afterwards the kept buffer is what it was just before that step, with the
deeds done to it since, and the screen is what it would be if those had never been done. All along, the number
in use and what else the screen is are those that the statements of its routines lead to. -/
theorem kept_until_renewed (s : Session) (turns : List Turn) :
    let k := s.keep
    let t := k.takeAll turns
    (t.keptIsCurrent = true ↔ ¬ k.Renewed turns) ∧
    (t.keptIsCurrent = true →
      t = k.takeAll (turns.map Turn.viaScreen) ∧ t.kept? = some t.screen.buffer ∧
        (∀ d, t.take (.kept d) = t.take (.buffer d)) ∧
        ∀ w, t.step (.write w) = .ok (t.writeKept w)) ∧
    (t.keptIsCurrent = false →
      (∀ d, (t.take (.kept d)).screen = t.screen ∧
        (t.take (.kept d)).kept? = t.kept?.map (d.run ·)) ∧
      (∀ turn, turn.keptDeed? = none → (t.take turn).kept? = t.kept?) ∧
      ∃ before step later, turns = before ++ .screen step :: later ∧
        let m := k.takeAll before
        m.keptIsCurrent = true ∧ m.Renews step ∧
          t.kept? = some (Deed.runAll m.screen.buffer (later.filterMap Turn.keptDeed?)) ∧
          t.screen = (step.after m.screen).takeAll later) ∧
    ∀ (log : List Log.Event) (step : Screen.Step), (t.plain log).replaced = t.current ∧
      ∃ later, (t.plain log).after step = (t.take (.screen step)).plain later := by
  intro k t
  have routines := fun (log : List Log.Event) (step : Screen.Step) =>
    And.intro (show (t.plain log).replaced = t.current from rfl) (t.take_plain log step)
  rcases s.keep_shares.takeAll turns with ⟨shares, never, same⟩ | ⟨before, step, later, rfl, shares, renews⟩
  · have current : t.keptIsCurrent = true := keptIsCurrent_iff.mpr shares
    refine ⟨⟨fun _ => never, fun _ => current⟩, ?_, ?_, routines⟩
    · intro _
      refine ⟨same, shares.kept?, fun d => (shares.take_viaScreen (.kept d)).symm, ?_⟩
      intro w
      have is_current : t.kept = some t.current := shares
      simp [Session.step, Screen.Step.run, writeKept, writeTo, is_current, bind, Except.bind, pure,
        Except.pure, Screen.Step.Reallocates]
    · intro other
      rw [current] at other
      cases other
  · let m := k.takeAll before
    obtain ⟨parted, left, redrawn⟩ := shares.parts renews
    have reached : t = (m.take (.screen step)).takeAll later := by simp [t, m]
    obtain ⟨apart, kept, screen⟩ := parted.takeAll later
    rw [← reached] at apart kept screen
    have other : t.keptIsCurrent = false := by
      rw [← Bool.not_eq_true, keptIsCurrent_iff]
      exact apart.not_shares
    refine ⟨?_, ?_, ?_, routines⟩
    · rw [other]
      constructor
      · rintro ⟨⟩
      · intro never
        exact absurd ⟨before, step, later, rfl, renews⟩ never
    · rw [other]
      rintro ⟨⟩
    · intro _
      refine ⟨fun d => ?_, fun turn own => (apart.take_other own).2.1, ?_⟩
      · obtain ⟨-, drawn, same⟩ := apart.take_kept d
        exact ⟨same, drawn⟩
      · refine ⟨before, step, later, rfl, keptIsCurrent_iff.mpr shares, renews, ?_, ?_⟩
        · rw [kept, left]
          rfl
        · rw [screen, redrawn]

end Session

end C64Screen
