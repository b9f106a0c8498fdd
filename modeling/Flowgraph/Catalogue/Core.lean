import Flowgraph.Catalogue

/-!
# The core catalogue

The node classes that ship with the engine, and the classes that exist on the canvas only.
-/
namespace Flowgraph.Catalogue

/-- A widget by its name; an asterisk in front marks a value that is never stored. -/
def widgetOf (name : String) : Widget :=
  match name.toList with
  | '*' :: rest => ⟨String.ofList rest, .control⟩
  | _ => ⟨name, .stored⟩

/-- The description of a class that loads no model. -/
def plain (classType : String) (widgets slots : List String) : String × ClassSpec :=
  (classType, ⟨widgets.map widgetOf, slots, none⟩)

/-- The description of a class that loads models of a category. -/
def loader (classType : String) (widgets slots fields : List String) (category : String) :
    String × ClassSpec :=
  (classType, ⟨widgets.map widgetOf, slots, some ⟨fields, category⟩⟩)

/-- What is known about the classes that ship with the engine. -/
def coreSpecs : List (String × ClassSpec) := [
  loader "CheckpointLoaderSimple" ["ckpt_name"] [] ["ckpt_name"] "checkpoints",
  loader "CheckpointLoader" ["config_name", "ckpt_name"] [] ["ckpt_name"] "checkpoints",
  loader "unCLIPCheckpointLoader" ["ckpt_name"] [] ["ckpt_name"] "checkpoints",
  loader "ImageOnlyCheckpointLoader" ["ckpt_name"] [] ["ckpt_name"] "checkpoints",
  loader "VAELoader" ["vae_name"] [] ["vae_name"] "vae",
  loader "LoraLoader"
    ["lora_name", "strength_model", "strength_clip"]
    ["model", "clip"] ["lora_name"] "loras",
  loader "LoraLoaderModelOnly" ["lora_name", "strength_model"] ["model"] ["lora_name"] "loras",
  loader "ControlNetLoader" ["control_net_name"] [] ["control_net_name"] "controlnet",
  loader "DiffControlNetLoader" ["control_net_name"] ["model"] ["control_net_name"] "controlnet",
  loader "UpscaleModelLoader" ["model_name"] [] ["model_name"] "upscale_models",
  loader "CLIPLoader" ["clip_name", "type"] [] ["clip_name"] "clip",
  loader "DualCLIPLoader"
    ["clip_name1", "clip_name2", "type"]
    [] ["clip_name1", "clip_name2"] "clip",
  loader "UNETLoader" ["unet_name", "weight_dtype"] [] ["unet_name"] "unet",
  loader "CLIPVisionLoader" ["clip_name"] [] ["clip_name"] "clip_vision",
  loader "StyleModelLoader" ["style_model_name"] [] ["style_model_name"] "style_models",
  loader "GLIGENLoader" ["gligen_name"] [] ["gligen_name"] "gligen",
  loader "HypernetworkLoader"
    ["hypernetwork_name", "strength"]
    ["model"] ["hypernetwork_name"] "hypernetworks",
  plain "KSampler"
    ["seed", "*control_after_generate", "steps", "cfg", "sampler_name", "scheduler", "denoise"]
    ["model", "positive", "negative", "latent_image"],
  plain "KSamplerAdvanced"
    ["add_noise", "noise_seed", "*control_after_generate", "steps", "cfg", "sampler_name",
      "scheduler", "start_at_step", "end_at_step", "return_with_leftover_noise"]
    ["model", "positive", "negative", "latent_image"],
  plain "CLIPTextEncode" ["text"] ["clip"],
  plain "CLIPSetLastLayer" ["stop_at_clip_layer"] ["clip"],
  plain "ConditioningCombine" [] ["conditioning_1", "conditioning_2"],
  plain "ControlNetApply" ["strength"] ["conditioning", "control_net", "image"],
  plain "ControlNetApplyAdvanced"
    ["strength", "start_percent", "end_percent"]
    ["positive", "negative", "control_net", "image", "vae"],
  plain "EmptyLatentImage" ["width", "height", "batch_size"] [],
  plain "LatentUpscale" ["upscale_method", "width", "height", "crop"] ["samples"],
  plain "LatentUpscaleBy" ["upscale_method", "scale_by"] ["samples"],
  plain "VAEDecode" [] ["samples", "vae"],
  plain "VAEEncode" [] ["pixels", "vae"],
  plain "VAEEncodeForInpaint" ["grow_mask_by"] ["pixels", "vae", "mask"],
  plain "LoadImage" ["image", "*upload"] [],
  plain "LoadImageMask" ["image", "channel", "*upload"] [],
  plain "ImageScale" ["upscale_method", "width", "height", "crop"] ["image"],
  plain "ImageUpscaleWithModel" [] ["upscale_model", "image"],
  plain "SaveImage" ["filename_prefix"] ["images"],
  plain "PreviewImage" [] ["images"],
  plain "Reroute" [] ["input"]]

/-- The classes that the editor ships but no engine runs. -/
def editorOnly : List String := ["Reroute", "Note", "MarkdownNote", "PrimitiveNode"]

/-- The catalogue of the classes that ship with the engine and the editor. -/
def core : Catalogue where
  shipped := coreSpecs.map Prod.fst ++ editorOnly
  specs := Keyed.ofList coreSpecs
  relays := ["Reroute", "Reroute (rgthree)"]
  ornaments := ["Note", "MarkdownNote", "PrimitiveNode", "Note Plus (mtb)", "Bookmark (rgthree)",
    "Label (rgthree)", "Fast Groups Muter (rgthree)", "Fast Groups Bypasser (rgthree)", "GetNode",
    "SetNode"]

end Flowgraph.Catalogue
