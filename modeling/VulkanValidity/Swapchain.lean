/-
  VulkanValidity.Swapchain

  Swapchains: images that are acquired one by one, rendered to, and given back by presenting them.
-/

import VulkanValidity.Resource

namespace VulkanValidity

/-- The properties that a swapchain is created with. -/
structure SwapchainInfo where
  imageCount : Nat := 2
  format : Format := .b8g8r8a8Unorm
  width : Nat := 0
  height : Nat := 0
  layers : Nat := 1
  usage : ImageUsage := .colorAttachment
  sharing : Sharing := .exclusive
deriving DecidableEq, Repr

namespace SwapchainInfo

/-- The width and the height of the images. -/
def dimensions (info : SwapchainInfo) : List Nat := [info.width, info.height]

/-- The properties of the images of the swapchain. -/
def imageInfo (info : SwapchainInfo) : ImageInfo where
  format := info.format
  extent := ⟨info.width, info.height, 1⟩
  arrayLayers := info.layers
  usage := info.usage
  sharing := info.sharing

end SwapchainInfo

/-- A swapchain of the registry. -/
structure Swapchain where
  info : SwapchainInfo
  images : List (Handle .image)
  /-- For each image, whether it is acquired. -/
  acquired : List Bool
deriving DecidableEq, Repr

namespace Swapchain

/-- A new swapchain, none of whose images is acquired. -/
def ofImages (info : SwapchainInfo) (images : List (Handle .image)) : Swapchain :=
  ⟨info, images, images.map fun _ => false⟩

/-- Whether the image at the index is acquired. -/
def isAcquired (swapchain : Swapchain) (index : Nat) : Bool :=
  (swapchain.acquired[index]?).getD false

/-- The number of acquired images. -/
def acquiredCount (swapchain : Swapchain) : Nat := swapchain.acquired.count true

/-- The index of the first image that is not acquired. -/
def nextIndex? (swapchain : Swapchain) : Option Nat := swapchain.acquired.findIdx? (!·)

/-- Marks the image at the index as acquired. -/
def acquire (swapchain : Swapchain) (index : Nat) : Swapchain :=
  { swapchain with acquired := swapchain.acquired.set index true }

/-- Marks the image at the index as not acquired. -/
def release (swapchain : Swapchain) (index : Nat) : Swapchain :=
  { swapchain with acquired := swapchain.acquired.set index false }

end Swapchain

/-- An image of a swapchain that is presented. -/
structure PresentedImage where
  swapchain : Handle .swapchain
  index : Nat
deriving DecidableEq, Repr

end VulkanValidity
