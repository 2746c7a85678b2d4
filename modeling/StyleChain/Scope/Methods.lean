import StyleChain.Scope.Basic

/-!
# Assigning slots

One method per slot, on scopes of the slot's group only, and one more for each slot that takes a
fraction, for the whole. Slots that take several shapes accept each of them by coercion, so that a
pair of distances may stand where a padding is asked for.

`Scope.set` takes any slot and a value of any type. It finds among its own slots the method to call
and passes over the slots of other groups, so what it knows as its own has to be what `Slot.group`
says (`set_of_group_eq`, `set_of_group_ne`).
-/

namespace StyleChain.Scope

/-! ### Size -/

/-- Sets the width. -/
def width (s : Scope .size) (d : Dp) : Scope .size := s.assign (.width d) rfl

/-- Sets the height. -/
def height (s : Scope .size) (d : Dp) : Scope .size := s.assign (.height d) rfl

/-- Takes a fraction of the width that is left. -/
def fillMaxWidth (s : Scope .size) (fraction : Binary32) : Scope .size :=
  s.assign (.fillMaxWidth fraction) rfl

/-- Takes all of the width that is left. -/
def fillWholeWidth (s : Scope .size) : Scope .size := s.fillMaxWidth wholeFraction

/-- Takes a fraction of the height that is left. -/
def fillMaxHeight (s : Scope .size) (fraction : Binary32) : Scope .size :=
  s.assign (.fillMaxHeight fraction) rfl

/-- Takes all of the height that is left. -/
def fillWholeHeight (s : Scope .size) : Scope .size := s.fillMaxHeight wholeFraction

/-- Takes a fraction of width and height that are left. -/
def fillMaxSize (s : Scope .size) (fraction : Binary32) : Scope .size :=
  s.assign (.fillMaxSize fraction) rfl

/-- Takes all of width and height that are left. -/
def fillWholeSize (s : Scope .size) : Scope .size := s.fillMaxSize wholeFraction

/-- Lets the content have its own size. -/
def wrapContentSize (s : Scope .size) (v : SlotValue.WrapContent Loose) : Scope .size :=
  s.assign (.wrapContentSize v) rfl

/-- Sets width and height. -/
def size (s : Scope .size) (v : SlotValue.Size Loose) : Scope .size := s.assign (.size v) rfl

/-! ### Appearance -/

/-- Keeps edges clear. -/
def padding (s : Scope .appearance) (v : SlotValue.Padding Loose) : Scope .appearance :=
  s.assign (.padding v) rfl

/-- Fills the background. -/
def background (s : Scope .appearance) (v : SlotValue.Background Loose) : Scope .appearance :=
  s.assign (.background v) rfl

/-- Draws a border. -/
def border (s : Scope .appearance) (v : SlotValue.Border Loose) : Scope .appearance :=
  s.assign (.border v) rfl

/-! ### Interaction -/

/-- Lets the box have the focus. -/
def focusable (s : Scope .interaction) (v : SlotValue.Focusable Loose) : Scope .interaction :=
  s.assign (.focusable v) rfl

/-- Answers clicks. -/
def onClick (s : Scope .interaction) (h : ClickHandler) : Scope .interaction :=
  s.assign (.onClick h) rfl

/-- Answers key events. -/
def onKeyEvent (s : Scope .interaction) (h : KeyHandler) : Scope .interaction :=
  s.assign (.onKeyEvent h) rfl

/-- Answers pointer events. -/
def onPointerEvent (s : Scope .interaction) (v : SlotValue.PointerInput Loose) :
    Scope .interaction :=
  s.assign (.onPointerEvent v) rfl

/-! ### Values of any type -/

variable {g : Group}

/-- Records a value that one of the group's slots cannot use. -/
def ignore (s : Scope g) (slot : Slot) (own : slot.group = g) (v : Loose) : Scope g :=
  s.assign (.unusable slot v) own

/-- Gives a slot a value of any type; a foreign slot is passed over. -/
def set : {g : Group} → Scope g → Slot → Loose → Scope g
  | .size, s, slot, v =>
    match slot with
    | .width => (v.distance?.map s.width).getD (s.ignore .width rfl v)
    | .height => (v.distance?.map s.height).getD (s.ignore .height rfl v)
    | .fillMaxWidth => (v.fraction?.map s.fillMaxWidth).getD (s.ignore .fillMaxWidth rfl v)
    | .fillMaxHeight => (v.fraction?.map s.fillMaxHeight).getD (s.ignore .fillMaxHeight rfl v)
    | .fillMaxSize => (v.fraction?.map s.fillMaxSize).getD (s.ignore .fillMaxSize rfl v)
    | .wrapContentSize => s.wrapContentSize (.ofLoose v)
    | .size => s.size (.ofLoose v)
    | _ => s
  | .appearance, s, slot, v =>
    match slot with
    | .padding => s.padding (.ofLoose v)
    | .background => s.background (.ofLoose v)
    | .border => s.border (.ofLoose v)
    | _ => s
  | .interaction, s, slot, v =>
    match slot with
    | .focusable => s.focusable (.ofLoose v)
    | .onClick => ((v.read? .clickHandler).map s.onClick).getD (s.ignore .onClick rfl v)
    | .onKeyEvent => ((v.read? .keyHandler).map s.onKeyEvent).getD (s.ignore .onKeyEvent rfl v)
    | .onPointerEvent => s.onPointerEvent (.ofLoose v)
    | _ => s

/-- Assigning what was read from a value, or else ignoring the value, is one assignment. -/
private theorem getD_map_assign {α : Type} (s : Scope g) {slot : Slot} (own : slot.group = g)
    (v : Loose) (read : Option α) (f : α → Assignment) (hf : ∀ x, (f x).slot.group = g)
    (hread : ((read.map f).getD (.unusable slot v)).slot.group = g) :
    (read.map fun x => s.assign (f x) (hf x)).getD (s.ignore slot own v) =
      s.assign ((read.map f).getD (.unusable slot v)) hread := by
  cases read <;> rfl

/-- A slot of the group is assigned what it makes of the value. -/
theorem set_of_group_eq (s : Scope g) {slot : Slot} (own : slot.group = g) (v : Loose) :
    s.set slot v = s.assign (v.assignment slot) (by simpa using own) := by
  subst own
  cases slot with
  | width => exact getD_map_assign s rfl v v.distance? .width (fun _ => rfl) _
  | height => exact getD_map_assign s rfl v v.distance? .height (fun _ => rfl) _
  | fillMaxWidth => exact getD_map_assign s rfl v v.fraction? .fillMaxWidth (fun _ => rfl) _
  | fillMaxHeight => exact getD_map_assign s rfl v v.fraction? .fillMaxHeight (fun _ => rfl) _
  | fillMaxSize => exact getD_map_assign s rfl v v.fraction? .fillMaxSize (fun _ => rfl) _
  | onClick => exact getD_map_assign s rfl v (v.read? .clickHandler) .onClick (fun _ => rfl) _
  | onKeyEvent => exact getD_map_assign s rfl v (v.read? .keyHandler) .onKeyEvent (fun _ => rfl) _
  | _ => rfl

/-- A foreign slot changes nothing. -/
theorem set_of_group_ne (s : Scope g) {slot : Slot} (foreign : slot.group ≠ g) (v : Loose) :
    s.set slot v = s := by
  cases g <;> cases slot <;> first | rfl | exact absurd rfl foreign

end StyleChain.Scope
