import StyleChain.Text.Record

/-!
# Handlers

A handler is known by a token only: two handlers are equal when they carry the same token, and
what a handler does is no part of it. `Behaviour` says from outside what every handler does, so
that a chain of operations stays plain data.
-/

namespace StyleChain

/-- What answers a click. -/
structure ClickHandler where
  /-- Tells this handler from every other of its type. -/
  token : Nat
deriving DecidableEq, Repr

/-- What answers a key event, saying whether the event is used up. -/
structure KeyHandler where
  /-- Tells this handler from every other of its type. -/
  token : Nat
deriving DecidableEq, Repr

/-- What answers a pointer event. -/
structure PointerHandler where
  /-- Tells this handler from every other of its type. -/
  token : Nat
deriving DecidableEq, Repr

/-- Diagnostic text of a handler of the named type. -/
private def describeHandler (name : String) : String := Text.tuple name [Text.quoted "<function>"]

/-- Diagnostic text, the same for every click handler. -/
def ClickHandler.describe (_ : ClickHandler) : String := describeHandler "OnClick"

/-- Diagnostic text, the same for every key handler. -/
def KeyHandler.describe (_ : KeyHandler) : String := describeHandler "OnKeyEvent"

/-- Diagnostic text, the same for every pointer handler. -/
def PointerHandler.describe (_ : PointerHandler) : String := describeHandler "PointerHandler"

/-- What handlers do, as functions from a handler and an event to the effects it has, in order.
`κ` are key events, `π` pointer events and `ε` effects. -/
structure Behaviour (κ π ε : Type) where
  /-- The effects of a click. -/
  click : ClickHandler → List ε
  /-- Whether a key event is used up, and its effects. -/
  key : KeyHandler → κ → Bool × List ε
  /-- The effects of a pointer event. -/
  pointer : PointerHandler → π → List ε

/-! ### Events -/

/-- The pointer events that can be listened for. -/
inductive PointerEventType where
  | press
  | release
  | move
  | enter
  | exit
  | scroll
deriving DecidableEq, Repr

namespace PointerEventType

/-- Every type of pointer event. -/
def all : List PointerEventType := [press, release, move, enter, exit, scroll]

/-- Diagnostic text. -/
def describe : PointerEventType → String
  | press => "Press"
  | release => "Release"
  | move => "Move"
  | enter => "Enter"
  | exit => "Exit"
  | scroll => "Scroll"

end PointerEventType

/-- The passes in which a pointer event is handed down and up a tree. -/
inductive PointerEventPass where
  /-- On the way down. -/
  | initial
  /-- On the way up. -/
  | main
  /-- On the way down again, when all is decided. -/
  | final
deriving DecidableEq, Repr

namespace PointerEventPass

/-- Handlers listen in the main pass unless told otherwise. -/
instance : Inhabited PointerEventPass := ⟨main⟩

/-- Every pass, in the order they are run. -/
def all : List PointerEventPass := [initial, main, final]

/-- Diagnostic text. -/
def describe : PointerEventPass → String
  | initial => "Initial"
  | main => "Main"
  | final => "Final"

end PointerEventPass

end StyleChain
