import Hyperlink.Text

/-!
The log of a rendering.

A rendering answers with a value and with the events on the way to it, in order. The value of a
logged step does not depend on its events (`bind_value`), and the events of two steps follow each
other (`bind_events`).
-/

namespace Hyperlink

/-- How a target came to its text. -/
inductive Outcome where
  /-- A target with a host but no scheme, left alone. -/
  | schemeless
  /-- Written with scheme and host. -/
  | absolute
  /-- A path from the root of the server, left alone. -/
  | serverPath
  /-- Written as a relative reference. -/
  | relative
  /-- Resolved against the page. -/
  | resolved
  deriving DecidableEq

/-- Something a rendering tells about itself. -/
inductive Event where
  /-- The path of the address with this text starts at the server root and leads past the mount
  point. -/
  | outside (address : Text)
  /-- A target was rendered as this text. -/
  | rendered (outcome : Outcome) (text : Text)
  deriving DecidableEq

namespace Event

/-- How much an event matters. -/
inductive Level where
  | debug | trace
  deriving DecidableEq

/-- An address past the mount point is worth more attention than a plain result. -/
def level : Event → Level
  | .outside _ => .debug
  | .rendered .. => .trace

/-- The wording of an event. -/
def message : Event → String
  | .outside _ => "server-anchored path is outside the deployment mount point"
  | .rendered .schemeless _ => "protocol-relative target kept as is"
  | .rendered .absolute _ => "target rendered absolute"
  | .rendered .serverPath _ => "context-absolute target kept as is"
  | .rendered .relative _ => "target rendered relative"
  | .rendered .resolved _ => "target resolved against base"

end Event

/-- A value together with the events on the way to it. -/
structure Logged (α : Type) where
  value : α
  events : List Event

namespace Logged

instance : Monad Logged where
  pure a := ⟨a, []⟩
  bind x f := ⟨(f x.value).value, x.events ++ (f x.value).events⟩

instance : LawfulMonad Logged := LawfulMonad.mk' Logged
  (by intro α x; cases x; simp [Functor.map])
  (by intro α β x f; simp [bind, pure])
  (by intro α β γ x f g; simp [bind, List.append_assoc])

/-- Adds one event. -/
def tell (e : Event) : Logged Unit := ⟨(), [e]⟩

/-- A text that is a target's rendering, with the event that says so. -/
def render (outcome : Outcome) (text : Text) : Logged Text := ⟨text, [.rendered outcome text]⟩

variable {α β : Type}

@[simp] theorem pure_value (a : α) : (pure a : Logged α).value = a := rfl

@[simp] theorem pure_events (a : α) : (pure a : Logged α).events = [] := rfl

@[simp] theorem bind_value (x : Logged α) (f : α → Logged β) :
    (x >>= f).value = (f x.value).value := rfl

@[simp] theorem bind_events (x : Logged α) (f : α → Logged β) :
    (x >>= f).events = x.events ++ (f x.value).events := rfl

@[simp] theorem map_value (f : α → β) (x : Logged α) : (f <$> x).value = f x.value := rfl

@[simp] theorem map_events (f : α → β) (x : Logged α) : (f <$> x).events = x.events := by
  show x.events ++ [] = x.events
  rw [List.append_nil]

@[simp] theorem render_value (o : Outcome) (t : Text) : (render o t).value = t := rfl

@[simp] theorem render_events (o : Outcome) (t : Text) :
    (render o t).events = [.rendered o t] := rfl

end Logged

end Hyperlink
