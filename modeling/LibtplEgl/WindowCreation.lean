import LibtplEgl.LogicalSize

namespace LibtplEgl.WindowCreation

open LibtplEgl.LogicalSize (size_setSize wlEglWindowResize wlEglWindowResize_rotation
  wlEglWindowResize_size)
open LibtplEgl.WindowCallbacks (Callback WlEglWindow WlEglWindowRotation)

universe u v

/-- The block that `malloc` returns for a `struct wl_egl_window`, whatever it holds. -/
structure WindowBlock (WlSurface : Type u) (Surface : Type v) extends WlEglWindow Surface where
  surface : Option WlSurface
  attachedWidth : Int
  attachedHeight : Int
  deriving DecidableEq, Repr

section

variable {WlSurface : Type u} {Surface : Type v}

/-- `wl_egl_window_create`: what it returns, and the callbacks it calls. The
rotation is read by the resize before it is written. -/
def wlEglWindowCreate (surface : Option WlSurface) (width height : Int)
    (malloc : Option (WindowBlock WlSurface Surface)) :
    Option (WindowBlock WlSurface Surface) × List Callback :=
  if width ≤ 0 ∨ height ≤ 0 then (none, [])
  else
    match surface, malloc with
    | none, _ => (none, [])
    | some _, none => (none, [])
    | some surface, some eglWindow =>
        let resized :=
          wlEglWindowResize { eglWindow.toWlEglWindow with resizeCallback := false }
            width height 0 0
        (some { resized.1 with
          surface := some surface
          attachedWidth := 0
          attachedHeight := 0
          rotation := .rotation0
          privateSurface := none
          rotateCallback := false
          getRotationCapability := false }, resized.2)

/-- A window of the size that was asked for, with nothing attached to it. -/
def freshWindow (surface : WlSurface) (width height : Int) : WindowBlock WlSurface Surface where
  width := width
  height := height
  dx := 0
  dy := 0
  rotation := .rotation0
  privateSurface := none
  resizeCallback := false
  rotateCallback := false
  getRotationCapability := false
  surface := some surface
  attachedWidth := 0
  attachedHeight := 0

theorem wlEglWindowResize_frame (eglWindow : WlEglWindow Surface)
    (hcallback : eglWindow.resizeCallback = false) (width height dx dy : Int) :
    (wlEglWindowResize eglWindow width height dx dy).1.dx = dx ∧
      (wlEglWindowResize eglWindow width height dx dy).1.dy = dy ∧
      (wlEglWindowResize eglWindow width height dx dy).1.resizeCallback = false ∧
      (wlEglWindowResize eglWindow width height dx dy).2 = [] := by
  unfold wlEglWindowResize
  dsimp only
  split
  · exact ⟨rfl, rfl, hcallback, rfl⟩
  · unfold WlEglWindow.setSize
    split
    · exact ⟨rfl, rfl, hcallback, by rw [hcallback]; rfl⟩
    · exact ⟨rfl, rfl, hcallback, by rw [hcallback]; rfl⟩

theorem wlEglWindowResize_sides (eglWindow : WlEglWindow Surface) (width height dx dy : Int) :
    ((wlEglWindowResize eglWindow width height dx dy).1.width,
        (wlEglWindowResize eglWindow width height dx dy).1.height) =
      if eglWindow.rotation.sideways then (height, width) else (width, height) := by
  have hsize := wlEglWindowResize_size eglWindow width height dx dy
  unfold WlEglWindow.size at hsize
  rw [wlEglWindowResize_rotation] at hsize
  cases hsideways : eglWindow.rotation.sideways with
  | false =>
      rw [hsideways] at hsize
      exact hsize
  | true =>
      rw [hsideways] at hsize
      exact Prod.ext (congrArg Prod.snd hsize) (congrArg Prod.fst hsize)

theorem wlEglWindowCreate_eq (surface : WlSurface) {width height : Int} (hwidth : 0 < width)
    (hheight : 0 < height) (block : WindowBlock WlSurface Surface) :
    wlEglWindowCreate (some surface) width height (some block) =
      (some (if block.rotation.sideways then freshWindow surface height width
        else freshWindow surface width height), []) := by
  have hpositive : ¬ (width ≤ 0 ∨ height ≤ 0) := by omega
  have hsides := wlEglWindowResize_sides { block.toWlEglWindow with resizeCallback := false }
    width height 0 0
  have hframe := wlEglWindowResize_frame { block.toWlEglWindow with resizeCallback := false }
    rfl width height 0 0
  unfold wlEglWindowCreate
  rw [if_neg hpositive]
  dsimp only at hsides hframe ⊢
  generalize wlEglWindowResize { block.toWlEglWindow with resizeCallback := false }
    width height 0 0 = resized at hsides hframe ⊢
  obtain ⟨⟨wide, tall, dx, dy, rotation, privateSurface, resize, rotate, capability⟩, calls⟩ :=
    resized
  obtain ⟨rfl, rfl, rfl, rfl⟩ := hframe
  cases hsideways : block.rotation.sideways with
  | false =>
      rw [hsideways] at hsides
      obtain ⟨rfl, rfl⟩ := Prod.mk.inj hsides
      rfl
  | true =>
      rw [hsideways] at hsides
      obtain ⟨rfl, rfl⟩ := Prod.mk.inj hsides
      rfl

/-- What the block held shows in nothing but the order of the sides. -/
theorem wlEglWindowCreate_congr (surface : Option WlSurface) (width height : Int)
    {block block' : WindowBlock WlSurface Surface}
    (hrotation : block.rotation.sideways = block'.rotation.sideways) :
    wlEglWindowCreate surface width height (some block) =
      wlEglWindowCreate surface width height (some block') := by
  by_cases hpositive : width ≤ 0 ∨ height ≤ 0
  · unfold wlEglWindowCreate
    rw [if_pos hpositive, if_pos hpositive]
  · cases surface with
    | none =>
        unfold wlEglWindowCreate
        rw [if_neg hpositive]
    | some surface =>
        have hwidth : 0 < width := by omega
        have hheight : 0 < height := by omega
        rw [wlEglWindowCreate_eq surface hwidth hheight block,
          wlEglWindowCreate_eq surface hwidth hheight block', hrotation]

theorem freshWindow_eq_iff (surface : WlSurface) (width height : Int) :
    (freshWindow surface height width : WindowBlock WlSurface Surface) =
      freshWindow surface width height ↔ width = height := by
  constructor
  · intro heq
    exact congrArg (fun window => window.height) heq
  · intro hsquare
    rw [hsquare]

/-- A new window is the fresh one unless its block held a quarter turn and its
sides differ. -/
theorem wlEglWindowCreate_fresh_iff (surface : WlSurface) {width height : Int}
    (hwidth : 0 < width) (hheight : 0 < height) (block : WindowBlock WlSurface Surface) :
    wlEglWindowCreate (some surface) width height (some block) =
        (some (freshWindow surface width height), []) ↔
      block.rotation.sideways = false ∨ width = height := by
  rw [wlEglWindowCreate_eq surface hwidth hheight block]
  cases block.rotation.sideways with
  | false => exact ⟨fun _ => .inl rfl, fun _ => rfl⟩
  | true =>
      rw [if_pos rfl, Prod.mk.injEq, Option.some.injEq, freshWindow_eq_iff]
      constructor
      · rintro ⟨hsquare, -⟩
        exact .inr hsquare
      · rintro (hfalse | hsquare)
        · cases hfalse
        · exact ⟨hsquare, rfl⟩

end

def staleBlock : WindowBlock Nat Nat :=
  { (freshWindow 7 0 0 : WindowBlock Nat Nat) with
    rotation := .rotation90
    privateSurface := some 1 }

/-- A square window does not show the order of its sides. -/
theorem wlEglWindowCreate_square :
    wlEglWindowCreate (some 3) 60 60 (some staleBlock) = (some (freshWindow 3 60 60), []) :=
  (wlEglWindowCreate_fresh_iff 3 (by decide) (by decide) staleBlock).mpr (.inr rfl)

/-- A window of 60 x 30 in that block is 30 wide and 60 high. -/
theorem not_wlEglWindowCreate_fresh :
    ¬ ∀ (surface : Nat) (width height : Int) (block : WindowBlock Nat Nat),
      0 < width → 0 < height →
        wlEglWindowCreate (some surface) width height (some block) =
          (some (freshWindow surface width height), []) := by
  intro hall
  exact absurd (hall 3 60 30 staleBlock (by decide) (by decide)) (by decide)

end LibtplEgl.WindowCreation
