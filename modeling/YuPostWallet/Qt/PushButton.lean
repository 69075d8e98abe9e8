/-
  YuPostWallet.Qt.PushButton — the sunken icon of `YuPostPushButton`: a cache filled at the
  first paint of the pressed button and never refreshed.

  `paintEvent` fills a style option from the button (`initStyleOption`), lets `updateIcon`
  swap its icon, and draws it.  When the button is enabled, has an icon and is down, the
  FIRST such paint computes the sunken icon (`icon.pixmap(iconSize, QIcon::Selected,
  QIcon::On)`) and sets `m_iconCached`; from then on every pressed paint draws that icon
  (when it is not null), whatever icon the button carries by then.

  Qt's icons are an interface: `QIcon::isNull` and the sunken pixmap are parameters.

  Main results:
    * `paintRun_cached` — a button whose cache is filled never changes, and each paint draws
      the cached icon exactly when it is pressed and the cached icon is not null;
    * `updateIcon_run` — from a fresh button, the run's first pressed paint fills the cache
      with ITS sunken icon, which every later pressed paint draws.
-/
import Mathlib.Data.List.Basic

namespace YuPostWallet.PushButton

/-- The button's cache: `m_iconCached` and `m_downIcon`. -/
structure Button (Icon : Type) where
  m_iconCached : Bool
  m_downIcon : Icon
  deriving DecidableEq, Repr

/-- The fields of `QStyleOptionButton` that `updateIcon` reads and writes. -/
structure StyleOption (Icon Size : Type) where
  /-- `state & QStyle::State_Enabled`. -/
  enabled : Bool
  icon : Icon
  iconSize : Size
  deriving DecidableEq, Repr

/-- One `paintEvent`: `isDown()`, and the option `initStyleOption` fills from the button. -/
structure Paint (Icon Size : Type) where
  isDown : Bool
  option : StyleOption Icon Size
  deriving DecidableEq, Repr

section Paint

variable {Icon Size : Type} (isNull : Icon → Bool) (sunken : Icon → Size → Icon)

/-- `YuPostPushButton::updateIcon(pushbutton)`; `sunken icon size` is
`QIcon(icon.pixmap(size, QIcon::Selected, QIcon::On))`. -/
def updateIcon (b : Button Icon) (isDown : Bool) (o : StyleOption Icon Size) :
    Button Icon × StyleOption Icon Size :=
  if o.enabled && !isNull o.icon && isDown then
    let b := if !b.m_iconCached then ⟨true, sunken o.icon o.iconSize⟩ else b
    (b, if !isNull b.m_downIcon then { o with icon := b.m_downIcon } else o)
  else (b, o)

/-- `YuPostPushButton::paintEvent`: the button after it, and the icon drawn. -/
def paintEvent (b : Button Icon) (p : Paint Icon Size) : Button Icon × Icon :=
  let r := updateIcon isNull sunken b p.isDown p.option
  (r.1, r.2.icon)

/-- The paints of a run: the button at the end, and the icon each paint drew. -/
def paintRun (b : Button Icon) : List (Paint Icon Size) → Button Icon × List Icon
  | [] => (b, [])
  | p :: ps =>
    let r := paintEvent isNull sunken b p
    let rs := paintRun r.1 ps
    (rs.1, r.2 :: rs.2)

/-- A paint that takes the sunken-icon branch: enabled, with an icon, down. -/
def Paint.pressed (p : Paint Icon Size) : Bool :=
  p.option.enabled && !isNull p.option.icon && p.isDown

/-- The icon a paint draws from a filled cache `c`. -/
def drawn (c : Icon) (p : Paint Icon Size) : Icon :=
  if p.pressed isNull && !isNull c then c else p.option.icon

theorem paintEvent_cached (b : Button Icon) (hb : b.m_iconCached = true) (p : Paint Icon Size) :
    paintEvent isNull sunken b p = (b, drawn isNull b.m_downIcon p) := by
  unfold paintEvent updateIcon drawn
  cases hp : p.pressed isNull
  · have h : (p.option.enabled && !isNull p.option.icon && p.isDown) = false := hp
    simp [h]
  · have h : (p.option.enabled && !isNull p.option.icon && p.isDown) = true := hp
    cases hc : isNull b.m_downIcon <;> simp [h, hb, hc]

theorem paintEvent_unpressed (b : Button Icon) (p : Paint Icon Size)
    (hp : p.pressed isNull = false) : paintEvent isNull sunken b p = (b, p.option.icon) := by
  have h : (p.option.enabled && !isNull p.option.icon && p.isDown) = false := hp
  simp [paintEvent, updateIcon, h]

theorem paintEvent_fresh (b : Button Icon) (hb : b.m_iconCached = false) (p : Paint Icon Size)
    (hp : p.pressed isNull = true) :
    paintEvent isNull sunken b p =
      (⟨true, sunken p.option.icon p.option.iconSize⟩,
        drawn isNull (sunken p.option.icon p.option.iconSize) p) := by
  have h : (p.option.enabled && !isNull p.option.icon && p.isDown) = true := hp
  cases hc : isNull (sunken p.option.icon p.option.iconSize) <;>
    simp [paintEvent, updateIcon, drawn, h, hb, hc, hp]

/-- **A filled cache is never refreshed.**  Every paint leaves the button as it is, and draws
the cached icon exactly when it is pressed and that icon is not null. -/
theorem paintRun_cached (b : Button Icon) (hb : b.m_iconCached = true) (ps : List (Paint Icon Size)) :
    paintRun isNull sunken b ps = (b, ps.map (drawn isNull b.m_downIcon)) := by
  induction ps with
  | nil => rfl
  | cons p ps ih => simp only [paintRun, paintEvent_cached isNull sunken b hb p, ih, List.map_cons]

/-- **The first pressed paint decides.**  From a fresh button, the paints before the first
pressed one draw their own icons; the first pressed paint fills the cache with its sunken
icon, and from there on every pressed paint draws that icon (when it is not null), whatever
icon the button has by then. -/
theorem updateIcon_run (b : Button Icon) (hb : b.m_iconCached = false)
    (pre : List (Paint Icon Size)) (p : Paint Icon Size) (post : List (Paint Icon Size))
    (hpre : ∀ q ∈ pre, q.pressed isNull = false) (hp : p.pressed isNull = true) :
    paintRun isNull sunken b (pre ++ p :: post) =
      (⟨true, sunken p.option.icon p.option.iconSize⟩,
        pre.map (·.option.icon) ++
          (p :: post).map (drawn isNull (sunken p.option.icon p.option.iconSize))) := by
  induction pre with
  | nil =>
    rw [List.nil_append, paintRun, paintEvent_fresh isNull sunken b hb p hp]
    simp only [paintRun_cached isNull sunken ⟨true, sunken p.option.icon p.option.iconSize⟩ rfl,
      List.map_nil, List.map_cons, List.nil_append]
  | cons q pre ih =>
    rw [List.cons_append, paintRun,
      paintEvent_unpressed isNull sunken b q (hpre q (List.mem_cons_self _ _))]
    simp only [ih fun q' hq' => hpre q' (List.mem_cons_of_mem _ hq'), List.map_cons,
      List.cons_append]

/-- The stale icon: the button shows icon `1`, is pressed, then shows icon `2` and is pressed
again; the second press still draws the sunken `1`. -/
theorem updateIcon_run_stale :
    (∀ q ∈ ([] : List (Paint Nat Unit)), q.pressed (· == 0) = false) ∧
      (⟨true, ⟨true, 1, ()⟩⟩ : Paint Nat Unit).pressed (· == 0) = true ∧
      paintRun (· == 0) (fun i _ => i + 100) ⟨false, 0⟩
          ([] ++ ⟨true, ⟨true, 1, ()⟩⟩ :: [⟨true, ⟨true, 2, ()⟩⟩]) =
        (⟨true, 101⟩, [101, 101]) :=
  ⟨nofun, rfl, updateIcon_run (· == 0) (fun i _ => i + 100) ⟨false, 0⟩ rfl [] ⟨true, ⟨true, 1, ()⟩⟩
    [⟨true, ⟨true, 2, ()⟩⟩] nofun rfl⟩

end Paint

end YuPostWallet.PushButton
