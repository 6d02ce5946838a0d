import PageOutline.Browser.Options
import PageOutline.Json.Value

namespace PageOutline

/-- A call to a browser. What fails tells its reason, and what a call has done stays. -/
abbrev Call (β α : Type) := β → Except String α × β

/-- A browser with tabs, which are numbered as they were opened. -/
class Browser (β : Type) where
  launch : LaunchOrder → Call β Unit
  connect : ConnectionOptions → Call β Unit
  newTab : Call β Unit
  tabCount : β → Nat
  /-- Where a tab is. -/
  url : β → Nat → String
  /-- The value of a script, where it has one. -/
  evaluate : (tab : Nat) → (script : String) → Call β (Option Json)
  navigate : (tab : Nat) → (url : String) → Call β Unit
  awaitNavigation : (tab : Nat) → Call β Unit

end PageOutline
