import LivePreview.Dependency
import LivePreview.Text.Join
/-!
# LivePreview.StandIn

**Stand-ins** are hand-written objects for imports that cannot be fetched as they are: parts of
the animation packages and two helper components. Each is an expression that yields an object of
exports and waits in a slot of its own; the framework is there when it is evaluated.
-/

namespace LivePreview.StandIn

open Text (joinLines)

/-- The stand-in for parts of the motion packages: elements that ignore what animates them. -/
def motionSource : String :=
  joinLines [
    "(() => \x7b",
    "  const React = __env.React;",
    "  const MOTION_PROPS = [\"initial\", \"animate\", \"exit\", \"transition\", \"variants\", \"whileHover\",",
    "    \"whileTap\", \"whileInView\", \"whileFocus\", \"whileDrag\", \"drag\", \"dragConstraints\", \"layout\",",
    "    \"layoutId\", \"viewport\", \"onAnimationStart\", \"onAnimationComplete\"];",
    "  const cache = new Map();",
    "  const make = (tag) => \x7b",
    "    if (!cache.has(tag)) \x7b",
    "      const C = React.forwardRef((props, ref) => \x7b",
    "        const rest = \x7b\x7d;",
    "        for (const key in props) if (!MOTION_PROPS.includes(key)) rest[key] = props[key];",
    "        return React.createElement(tag, Object.assign(rest, \x7b ref \x7d));",
    "      \x7d);",
    "      C.displayName = \"motion.\" + String(tag);",
    "      cache.set(tag, C);",
    "    \x7d",
    "    return cache.get(tag);",
    "  \x7d;",
    "  const motion = new Proxy(make, \x7b get: (_, tag) => make(tag) \x7d);",
    "  const controls = () => (\x7b start: () => Promise.resolve(), stop: () => \x7b\x7d, set: () => \x7b\x7d \x7d);",
    "  const value = (v) => (\x7b get: () => v, set: (n) => \x7b v = n; \x7d, on: () => () => \x7b\x7d \x7d);",
    "  return \x7b",
    "    motion,",
    "    m: motion,",
    "    AnimatePresence: (\x7b children \x7d) => React.createElement(React.Fragment, null, children),",
    "    LayoutGroup: (\x7b children \x7d) => React.createElement(React.Fragment, null, children),",
    "    MotionConfig: (\x7b children \x7d) => React.createElement(React.Fragment, null, children),",
    "    useAnimation: controls,",
    "    useAnimationControls: controls,",
    "    useMotionValue: value,",
    "    useSpring: value,",
    "    useTransform: () => value(0),",
    "    useScroll: () => (\x7b scrollX: value(0), scrollY: value(0), scrollXProgress: value(0), scrollYProgress: value(0) \x7d),",
    "    useInView: () => true,",
    "    useReducedMotion: () => false,",
    "    animate: () => (\x7b stop: () => \x7b\x7d, then: (f) => Promise.resolve().then(f) \x7d),",
    "    stagger: () => 0,",
    "    default: motion,",
    "  \x7d;",
    "\x7d)()"]

/-- The stand-in for parts of the tweening package: time lines that do nothing. -/
def tweenSource : String :=
  joinLines [
    "(() => \x7b",
    "  const tween = () => (\x7b kill: () => \x7b\x7d, play: () => \x7b\x7d, pause: () => \x7b\x7d, reverse: () => \x7b\x7d, progress: () => 0 \x7d);",
    "  const timeline = () => \x7b",
    "    const tl = Object.assign(tween(), \x7b\x7d);",
    "    for (const k of [\"to\", \"from\", \"fromTo\", \"set\", \"add\", \"addLabel\", \"call\"]) tl[k] = () => tl;",
    "    return tl;",
    "  \x7d;",
    "  const gsap = \x7b",
    "    to: tween, from: tween, fromTo: tween, set: tween, timeline,",
    "    registerPlugin: () => \x7b\x7d, context: (fn) => \x7b if (typeof fn === \"function\") fn(); return \x7b revert: () => \x7b\x7d \x7d; \x7d,",
    "    utils: \x7b toArray: (v) => Array.from(typeof v === \"string\" ? document.querySelectorAll(v) : [].concat(v)) \x7d,",
    "  \x7d;",
    "  const ScrollTrigger = \x7b create: () => (\x7b kill: () => \x7b\x7d \x7d), refresh: () => \x7b\x7d, getAll: () => [] \x7d;",
    "  return \x7b gsap, ScrollTrigger, Draggable: \x7b create: () => [] \x7d, default: gsap \x7d;",
    "\x7d)()"]

/-- The stand-in for the link helper. -/
def linkSource : String :=
  joinLines [
    "(() => \x7b",
    "  const React = __env.React;",
    "  const Link = React.forwardRef((\x7b href, children, prefetch, replace, scroll, shallow, passHref, legacyBehavior, ...rest \x7d, ref) => \x7b",
    "    const target = typeof href === \"string\" ? href : (href && href.pathname) || \"#\";",
    "    return React.createElement(\"a\", Object.assign(\x7b href: target, ref \x7d, rest), children);",
    "  \x7d);",
    "  Link.displayName = \"Link\";",
    "  return \x7b default: Link, Link \x7d;",
    "\x7d)()"]

/-- The stand-in for the image helper. -/
def imageSource : String :=
  joinLines [
    "(() => \x7b",
    "  const React = __env.React;",
    "  const Image = React.forwardRef((\x7b src, alt, width, height, fill, priority, quality, placeholder, blurDataURL, loader, unoptimized, style, ...rest \x7d, ref) => \x7b",
    "    const resolved = typeof src === \"string\" ? src : (src && src.src) || \"\";",
    "    const sizing = fill ? \x7b position: \"absolute\", inset: 0, width: \"100%\", height: \"100%\", objectFit: \"cover\" \x7d : \x7b\x7d;",
    "    return React.createElement(\"img\", Object.assign(\x7b src: resolved, alt: alt || \"\", width, height, ref, loading: priority ? \"eager\" : \"lazy\", style: Object.assign(sizing, style) \x7d, rest));",
    "  \x7d);",
    "  Image.displayName = \"Image\";",
    "  return \x7b default: Image, Image \x7d;",
    "\x7d)()"]

/-- The slot of the stand-in for parts of an animation package. -/
def animationSlot (base : String) : String :=
  if base = "gsap" then "__shim_gsap" else "__shim_motion"

/-- The stand-in for parts of an animation package. -/
def animationSource (base : String) : String :=
  if base = "gsap" then tweenSource else motionSource

/-- The slot of the stand-in for a helper. -/
def helperSlot : Helper → String
  | .link => "__shim_next_link"
  | .image => "__shim_next_image"

/-- The stand-in for a helper. -/
def helperSource : Helper → String
  | .link => linkSource
  | .image => imageSource

end LivePreview.StandIn
