import AuthProfile.Process.Prog

set_option autoImplicit false

-- Programs that run one after another, each under its own script.
namespace Process

variable {κ σ ε : Type} (program : κ → Prog σ ε Unit) (script : κ → List Fault)

def runAll (s : σ) (calls : List κ) : σ := calls.foldl (fun s call => ((program call).exec (script call) s).store) s

def AllReturn : σ → List κ → Prop
  | _, [] => True
  | s, call :: later =>
      ((program call).exec (script call) s).result = .ok () ∧
        AllReturn ((program call).exec (script call) s).store later

instance decidableAllReturn [DecidableEq (Except ε Unit)] : ∀ s calls, Decidable (AllReturn program script s calls)
  | _, [] => inferInstanceAs (Decidable True)
  | s, call :: later =>
      have : Decidable (AllReturn program script ((program call).exec (script call) s).store later) :=
        decidableAllReturn _ later
      inferInstanceAs (Decidable (_ ∧ _))

theorem run_all_snoc (s : σ) (calls : List κ) (call : κ) :
    runAll program script s (calls ++ [call]) =
      ((program call).exec (script call) (runAll program script s calls)).store :=
  List.foldl_append

theorem all_return_each (s : σ) (calls before : List κ) (call : κ) (returned : AllReturn program script s calls)
    (isPrefix : before ++ [call] <+: calls) :
    ((program call).exec (script call) (runAll program script s before)).result = .ok () := by
  obtain ⟨later, rfl⟩ := isPrefix
  induction before generalizing s with
  | nil => exact returned.1
  | cons first before ih => exact ih _ returned.2

end Process
