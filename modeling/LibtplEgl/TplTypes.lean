import Mathlib.Tactic.TypeStar

namespace LibtplEgl.TplTypes

/-- `tpl_result_t`. -/
inductive TplResult
  | errorNone
  | errorInvalidParameter
  | errorInvalidOperation
  | errorOutOfMemory
  deriving DecidableEq, Repr

/-- `tpl_surface_type_t`. -/
inductive TplSurfaceType
  | error
  | window
  | pixmap
  deriving DecidableEq, Repr

/-- The backends of `tpl_backend_type_t`; `TPL_BACKEND_UNKNOWN` is `none` in an
`Option` where a caller may pass it. -/
inductive TplBackend
  | wayland
  | gbm
  | x11Dri2
  | x11Dri3
  | tbm
  | waylandVulkanWsi
  | tbmVulkanWsi
  deriving DecidableEq, Repr

/-- `tpl_display_present_mode_t`. -/
inductive TplDisplayPresentMode
  | mailbox
  | fifo
  | immediate
  | fifoRelaxed
  deriving DecidableEq, Repr

/-- The bit of the mode in `surface_capabilities.present_modes`. -/
def TplDisplayPresentMode.bit : TplDisplayPresentMode → Nat
  | .mailbox => 1
  | .fifo => 2
  | .immediate => 4
  | .fifoRelaxed => 8

end LibtplEgl.TplTypes
