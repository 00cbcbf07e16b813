/-
How a character looks on the screen:

* `Color` and `Style`: colours that may be left open, and boldness;
* `Style.overlay`: one style laid over another;
* `Cell`: a symbol with its style.
-/

namespace TapeDebugger

/-- A colour. -/
inductive Color where
  /-- The black of the terminal's own palette. -/
  | black
  /-- A colour given by its three parts. -/
  | rgb (red green blue : UInt8)
  deriving DecidableEq, Repr

/-- The look of a character. An open colour is the default one of the
terminal, or that of whatever lies below. -/
structure Style where
  fg : Option Color := none
  bg : Option Color := none
  bold : Bool := false
  deriving DecidableEq, Repr

namespace Style

/-- The style that leaves everything open. -/
def plain : Style := {}

/-- The style with only the foreground given. -/
def ofColor (fg : Color) : Style := { fg := some fg }

/-- The style `top` over the style `base`: open colours show the base, and
boldness adds up. -/
def overlay (base top : Style) : Style where
  fg := top.fg.or base.fg
  bg := top.bg.or base.bg
  bold := base.bold || top.bold

@[simp]
theorem overlay_plain (s : Style) : s.overlay plain = s := by
  simp [overlay, plain]

@[simp]
theorem plain_overlay (s : Style) : plain.overlay s = s := by
  simp [overlay, plain]

end Style

/-- One place of the screen. Its symbol is a character together with the
marks that belong to it. -/
structure Cell where
  symbol : List Char
  style : Style
  deriving DecidableEq, Repr

/-- The empty place. -/
def Cell.blank : Cell := ⟨[' '], .plain⟩

end TapeDebugger
