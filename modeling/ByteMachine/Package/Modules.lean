/- The modules that can be imported beside the package script, as far as
   looking up a command in them is concerned.

   A package is listed with the names of the modules and packages directly
   in it; a module that is no package has no members. The top-level modules
   that are no packages are listed by name. A few names are registered for
   modules that live under another name, and reach them although their
   parent is no package. A module that holds something under its own last
   name records what that is: something other than a class, or a class that
   is no command. The members of two packages are found in the packages
   they are taken from. A few modules print a notice when they, or modules
   that import them, are first imported. -/
namespace ByteMachine.Package

/-- A package of modules: its dotted name, and the modules and packages directly in it. -/
structure ModulePackage where
  name : String
  members : List String
  deriving Repr

/-- The packages of the tool set itself. -/
def programPackages : List ModulePackage := [
  ⟨"eight_bit_computer", ["assembler", "assembly_summary", "assembly_validity", "bitdef", "cli",
    "data_structures", "exceptions", "export", "language_defs", "main", "number_utils",
    "operation_utils", "operations", "rom", "token_utils"]⟩,
  ⟨"eight_bit_computer.operations", ["add", "copy_op", "fetch", "jump", "jump_if_flag_base",
    "jump_if_overflow_flag", "load", "operation_template", "set_op", "simple_alu_op_base"]⟩]

/-- The packages of the packaging tools and the installer. -/
def setupPackages : List ModulePackage := [
  ⟨"_distutils_hack", ["override"]⟩,
  ⟨"distutils", ["_collections", "_functools", "_macos_compat", "_msvccompiler", "archive_util",
    "bcppcompiler", "ccompiler", "cmd", "command", "config", "core", "cygwinccompiler", "debug",
    "dep_util", "dir_util", "dist", "errors", "extension", "fancy_getopt", "file_util",
    "filelist", "log", "msvccompiler", "py38compat", "py39compat", "spawn", "sysconfig",
    "text_file", "unixccompiler", "util", "version", "versionpredicate"]⟩,
  ⟨"distutils.command", ["_framework_compat", "bdist", "bdist_dumb", "bdist_rpm", "build",
    "build_clib", "build_ext", "build_py", "build_scripts", "check", "clean", "config",
    "install", "install_data", "install_egg_info", "install_headers", "install_lib",
    "install_scripts", "py37compat", "register", "sdist", "upload"]⟩,
  ⟨"pip", ["__main__", "_internal", "_vendor"]⟩,
  ⟨"pip._internal", ["build_env", "cache", "cli", "commands", "configuration", "distributions",
    "exceptions", "index", "locations", "main", "metadata", "models", "network", "operations",
    "pyproject", "req", "resolution", "self_outdated_check", "utils", "vcs", "wheel_builder"]⟩,
  ⟨"pip._internal.cli", []⟩,
  ⟨"pip._internal.commands", []⟩,
  ⟨"pip._internal.distributions", []⟩,
  ⟨"pip._internal.index", []⟩,
  ⟨"pip._internal.locations", []⟩,
  ⟨"pip._internal.metadata", []⟩,
  ⟨"pip._internal.models", []⟩,
  ⟨"pip._internal.network", []⟩,
  ⟨"pip._internal.operations", []⟩,
  ⟨"pip._internal.req", []⟩,
  ⟨"pip._internal.resolution", []⟩,
  ⟨"pip._internal.utils", []⟩,
  ⟨"pip._internal.vcs", []⟩,
  ⟨"pip._vendor", ["cachecontrol", "certifi", "chardet", "colorama", "distlib", "distro", "idna",
    "msgpack", "packaging", "pkg_resources", "platformdirs", "pygments", "pyparsing",
    "pyproject_hooks", "requests", "resolvelib", "rich", "six", "tenacity", "tomli",
    "truststore", "typing_extensions", "urllib3", "webencodings"]⟩,
  ⟨"pip._vendor.cachecontrol", []⟩,
  ⟨"pip._vendor.certifi", []⟩,
  ⟨"pip._vendor.chardet", []⟩,
  ⟨"pip._vendor.colorama", []⟩,
  ⟨"pip._vendor.distlib", []⟩,
  ⟨"pip._vendor.distro", []⟩,
  ⟨"pip._vendor.idna", []⟩,
  ⟨"pip._vendor.msgpack", []⟩,
  ⟨"pip._vendor.packaging", []⟩,
  ⟨"pip._vendor.pkg_resources", []⟩,
  ⟨"pip._vendor.platformdirs", []⟩,
  ⟨"pip._vendor.pygments", []⟩,
  ⟨"pip._vendor.pyparsing", []⟩,
  ⟨"pip._vendor.pyproject_hooks", []⟩,
  ⟨"pip._vendor.requests", []⟩,
  ⟨"pip._vendor.resolvelib", []⟩,
  ⟨"pip._vendor.rich", []⟩,
  ⟨"pip._vendor.six", []⟩,
  ⟨"pip._vendor.tenacity", []⟩,
  ⟨"pip._vendor.tomli", []⟩,
  ⟨"pip._vendor.truststore", []⟩,
  ⟨"pip._vendor.urllib3", []⟩,
  ⟨"pip._vendor.webencodings", []⟩,
  ⟨"pkg_resources", ["_vendor", "extern"]⟩,
  ⟨"pkg_resources._vendor", ["appdirs", "importlib_resources", "jaraco", "more_itertools",
    "packaging", "pyparsing", "zipp"]⟩,
  ⟨"pkg_resources._vendor.importlib_resources", ["_adapters", "_common", "_compat", "_itertools",
    "_legacy", "abc", "readers", "simple"]⟩,
  ⟨"pkg_resources._vendor.jaraco", ["context", "functools", "text"]⟩,
  ⟨"pkg_resources._vendor.jaraco.text", []⟩,
  ⟨"pkg_resources._vendor.more_itertools", ["more", "recipes"]⟩,
  ⟨"pkg_resources._vendor.packaging", ["__about__", "_manylinux", "_musllinux", "_structures",
    "markers", "requirements", "specifiers", "tags", "utils", "version"]⟩,
  ⟨"pkg_resources._vendor.pyparsing", ["actions", "common", "core", "exceptions", "helpers",
    "results", "testing", "unicode", "util"]⟩,
  ⟨"pkg_resources.extern", []⟩,
  ⟨"setuptools", ["_deprecation_warning", "_distutils", "_entry_points", "_imp", "_importlib",
    "_itertools", "_path", "_reqs", "_vendor", "archive_util", "build_meta", "command", "config",
    "dep_util", "depends", "discovery", "dist", "errors", "extension", "extern", "glob",
    "installer", "launch", "logging", "monkey", "msvc", "namespaces", "package_index",
    "py34compat", "sandbox", "unicode_utils", "version", "wheel", "windows_support"]⟩,
  ⟨"setuptools._distutils", ["_collections", "_functools", "_macos_compat", "_msvccompiler",
    "archive_util", "bcppcompiler", "ccompiler", "cmd", "command", "config", "core",
    "cygwinccompiler", "debug", "dep_util", "dir_util", "dist", "errors", "extension",
    "fancy_getopt", "file_util", "filelist", "log", "msvccompiler", "py38compat", "py39compat",
    "spawn", "sysconfig", "text_file", "unixccompiler", "util", "version", "versionpredicate"]⟩,
  ⟨"setuptools._distutils.command", ["_framework_compat", "bdist", "bdist_dumb", "bdist_rpm",
    "build", "build_clib", "build_ext", "build_py", "build_scripts", "check", "clean", "config",
    "install", "install_data", "install_egg_info", "install_headers", "install_lib",
    "install_scripts", "py37compat", "register", "sdist", "upload"]⟩,
  ⟨"setuptools._vendor", ["importlib_metadata", "importlib_resources", "jaraco",
    "more_itertools", "ordered_set", "packaging", "pyparsing", "tomli", "typing_extensions",
    "zipp"]⟩,
  ⟨"setuptools._vendor.importlib_metadata", ["_adapters", "_collections", "_compat",
    "_functools", "_itertools", "_meta", "_text"]⟩,
  ⟨"setuptools._vendor.importlib_resources", ["_adapters", "_common", "_compat", "_itertools",
    "_legacy", "abc", "readers", "simple"]⟩,
  ⟨"setuptools._vendor.jaraco", ["context", "functools", "text"]⟩,
  ⟨"setuptools._vendor.jaraco.text", []⟩,
  ⟨"setuptools._vendor.more_itertools", ["more", "recipes"]⟩,
  ⟨"setuptools._vendor.packaging", ["__about__", "_manylinux", "_musllinux", "_structures",
    "markers", "requirements", "specifiers", "tags", "utils", "version"]⟩,
  ⟨"setuptools._vendor.pyparsing", ["actions", "common", "core", "exceptions", "helpers",
    "results", "testing", "unicode", "util"]⟩,
  ⟨"setuptools._vendor.tomli", ["_parser", "_re", "_types"]⟩,
  ⟨"setuptools.command", ["alias", "bdist_egg", "bdist_rpm", "build", "build_clib", "build_ext",
    "build_py", "develop", "dist_info", "easy_install", "editable_wheel", "egg_info", "install",
    "install_egg_info", "install_lib", "install_scripts", "py36compat", "register", "rotate",
    "saveopts", "sdist", "setopt", "upload", "upload_docs"]⟩,
  ⟨"setuptools.config", ["_apply_pyprojecttoml", "_validate_pyproject", "expand",
    "pyprojecttoml", "setupcfg"]⟩,
  ⟨"setuptools.config._validate_pyproject", ["error_reporting", "extra_validations",
    "fastjsonschema_exceptions", "fastjsonschema_validations", "formats"]⟩,
  ⟨"setuptools.extern", []⟩]

/-- The packages of the language's standard library. -/
def libraryPackages : List ModulePackage := [
  ⟨"__phello__", ["spam"]⟩,
  ⟨"asyncio", ["__main__", "base_events", "base_futures", "base_subprocess", "base_tasks",
    "constants", "coroutines", "events", "exceptions", "format_helpers", "futures", "locks",
    "log", "mixins", "proactor_events", "protocols", "queues", "runners", "selector_events",
    "sslproto", "staggered", "streams", "subprocess", "taskgroups", "tasks", "threads",
    "timeouts", "transports", "trsock", "unix_events"]⟩,
  ⟨"collections", ["abc"]⟩,
  ⟨"concurrent", ["futures"]⟩,
  ⟨"concurrent.futures", ["_base", "process", "thread"]⟩,
  ⟨"ctypes", ["_aix", "_endian", "macholib", "util", "wintypes"]⟩,
  ⟨"ctypes.macholib", ["dyld", "dylib", "framework"]⟩,
  ⟨"curses", ["ascii", "has_key", "panel", "textpad"]⟩,
  ⟨"dbm", ["dumb", "gnu", "ndbm"]⟩,
  ⟨"email", ["_encoded_words", "_header_value_parser", "_parseaddr", "_policybase", "base64mime",
    "charset", "contentmanager", "encoders", "errors", "feedparser", "generator", "header",
    "headerregistry", "iterators", "message", "mime", "parser", "policy", "quoprimime", "utils"]⟩,
  ⟨"email.mime", ["application", "audio", "base", "image", "message", "multipart",
    "nonmultipart", "text"]⟩,
  ⟨"encodings", ["aliases", "ascii", "base64_codec", "big5", "big5hkscs", "bz2_codec", "charmap",
    "cp037", "cp1006", "cp1026", "cp1125", "cp1140", "cp1250", "cp1251", "cp1252", "cp1253",
    "cp1254", "cp1255", "cp1256", "cp1257", "cp1258", "cp273", "cp424", "cp437", "cp500",
    "cp720", "cp737", "cp775", "cp850", "cp852", "cp855", "cp856", "cp857", "cp858", "cp860",
    "cp861", "cp862", "cp863", "cp864", "cp865", "cp866", "cp869", "cp874", "cp875", "cp932",
    "cp949", "cp950", "euc_jis_2004", "euc_jisx0213", "euc_jp", "euc_kr", "gb18030", "gb2312",
    "gbk", "hex_codec", "hp_roman8", "hz", "idna", "iso2022_jp", "iso2022_jp_1", "iso2022_jp_2",
    "iso2022_jp_2004", "iso2022_jp_3", "iso2022_jp_ext", "iso2022_kr", "iso8859_1", "iso8859_10",
    "iso8859_11", "iso8859_13", "iso8859_14", "iso8859_15", "iso8859_16", "iso8859_2",
    "iso8859_3", "iso8859_4", "iso8859_5", "iso8859_6", "iso8859_7", "iso8859_8", "iso8859_9",
    "johab", "koi8_r", "koi8_t", "koi8_u", "kz1048", "latin_1", "mac_arabic", "mac_croatian",
    "mac_cyrillic", "mac_farsi", "mac_greek", "mac_iceland", "mac_latin2", "mac_roman",
    "mac_romanian", "mac_turkish", "palmos", "ptcp154", "punycode", "quopri_codec",
    "raw_unicode_escape", "rot_13", "shift_jis", "shift_jis_2004", "shift_jisx0213", "tis_620",
    "undefined", "unicode_escape", "utf_16", "utf_16_be", "utf_16_le", "utf_32", "utf_32_be",
    "utf_32_le", "utf_7", "utf_8", "utf_8_sig", "uu_codec", "zlib_codec"]⟩,
  ⟨"ensurepip", ["__main__", "_uninstall"]⟩,
  ⟨"html", ["entities", "parser"]⟩,
  ⟨"http", ["client", "cookiejar", "cookies", "server"]⟩,
  ⟨"idlelib", []⟩,
  ⟨"importlib", ["_abc", "_bootstrap", "_bootstrap_external", "abc", "machinery", "metadata",
    "readers", "resources", "simple", "util"]⟩,
  ⟨"importlib.metadata", ["_adapters", "_collections", "_functools", "_itertools", "_meta",
    "_text"]⟩,
  ⟨"importlib.resources", ["_adapters", "_common", "_itertools", "_legacy", "abc", "readers",
    "simple"]⟩,
  ⟨"json", ["decoder", "encoder", "scanner", "tool"]⟩,
  ⟨"lib2to3", ["btm_matcher", "btm_utils", "fixer_base", "fixer_util", "fixes", "main",
    "patcomp", "pgen2", "pygram", "pytree", "refactor"]⟩,
  ⟨"lib2to3.fixes", ["fix_apply", "fix_asserts", "fix_basestring", "fix_buffer", "fix_dict",
    "fix_except", "fix_exec", "fix_execfile", "fix_exitfunc", "fix_filter", "fix_funcattrs",
    "fix_future", "fix_getcwdu", "fix_has_key", "fix_idioms", "fix_import", "fix_imports",
    "fix_imports2", "fix_input", "fix_intern", "fix_isinstance", "fix_itertools",
    "fix_itertools_imports", "fix_long", "fix_map", "fix_metaclass", "fix_methodattrs", "fix_ne",
    "fix_next", "fix_nonzero", "fix_numliterals", "fix_operator", "fix_paren", "fix_print",
    "fix_raise", "fix_raw_input", "fix_reduce", "fix_reload", "fix_renames", "fix_repr",
    "fix_set_literal", "fix_standarderror", "fix_sys_exc", "fix_throw", "fix_tuple_params",
    "fix_types", "fix_unicode", "fix_urllib", "fix_ws_comma", "fix_xrange", "fix_xreadlines",
    "fix_zip"]⟩,
  ⟨"lib2to3.pgen2", ["driver", "grammar", "literals", "parse", "pgen", "token", "tokenize"]⟩,
  ⟨"logging", ["config", "handlers"]⟩,
  ⟨"multiprocessing", ["connection", "context", "dummy", "forkserver", "heap", "managers",
    "pool", "popen_fork", "popen_forkserver", "popen_spawn_posix", "process", "queues",
    "reduction", "resource_sharer", "resource_tracker", "shared_memory", "sharedctypes", "spawn",
    "synchronize", "util"]⟩,
  ⟨"multiprocessing.dummy", ["connection"]⟩,
  ⟨"pydoc_data", ["topics"]⟩,
  ⟨"re", ["_casefix", "_compiler", "_constants", "_parser"]⟩,
  ⟨"sqlite3", ["dbapi2", "dump"]⟩,
  ⟨"test", []⟩,
  ⟨"tkinter", ["colorchooser", "commondialog", "constants", "dialog", "dnd", "filedialog",
    "font", "messagebox", "scrolledtext", "simpledialog", "tix", "ttk"]⟩,
  ⟨"tomllib", ["_parser", "_re", "_types"]⟩,
  ⟨"turtledemo", []⟩,
  ⟨"unittest", ["_log", "async_case", "case", "loader", "main", "mock", "result", "runner",
    "signals", "suite", "util"]⟩,
  ⟨"urllib", ["error", "parse", "request", "response", "robotparser"]⟩,
  ⟨"venv", []⟩,
  ⟨"wsgiref", ["handlers", "headers", "simple_server", "types", "util", "validate"]⟩,
  ⟨"xml", ["dom", "etree", "parsers", "sax"]⟩,
  ⟨"xml.dom", ["NodeFilter", "domreg", "expatbuilder", "minicompat", "minidom", "pulldom",
    "xmlbuilder"]⟩,
  ⟨"xml.etree", ["ElementInclude", "ElementPath", "ElementTree", "cElementTree"]⟩,
  ⟨"xml.parsers", ["expat"]⟩,
  ⟨"xml.sax", ["_exceptions", "expatreader", "handler", "saxutils", "xmlreader"]⟩,
  ⟨"xmlrpc", ["client", "server"]⟩,
  ⟨"zoneinfo", ["_common", "_tzpath", "_zoneinfo"]⟩]

/-- Every package that can be imported. -/
def allPackages : List ModulePackage := programPackages ++ setupPackages ++ libraryPackages

/-- The top-level modules that are no packages. -/
def plainModules : List String :=
  ["__future__", "__hello__", "_aix_support", "_bootsubprocess", "_collections_abc",
   "_compat_pickle", "_compression", "_markupbase", "_osx_support", "_py_abc", "_pydecimal",
   "_pyio", "_sitebuiltins", "_strptime", "_threading_local", "_weakrefset", "abc", "aifc",
   "antigravity", "argparse", "array", "ast", "asynchat", "asyncore", "audioop", "base64", "bdb",
   "binascii", "bisect", "bz2", "cProfile", "calendar", "cgi", "cgitb", "chunk", "cmath", "cmd",
   "code", "codecs", "codeop", "colorsys", "compileall", "configparser", "contextlib",
   "contextvars", "copy", "copyreg", "crypt", "csv", "dataclasses", "datetime", "decimal",
   "difflib", "dis", "doctest", "enum", "fcntl", "filecmp", "fileinput", "fnmatch", "fractions",
   "ftplib", "functools", "genericpath", "getopt", "getpass", "gettext", "glob", "graphlib",
   "grp", "gzip", "hashlib", "heapq", "hmac", "imaplib", "imghdr", "imp", "inspect", "io",
   "ipaddress", "keyword", "linecache", "locale", "lzma", "mailbox", "mailcap", "math",
   "mimetypes", "mmap", "modulefinder", "netrc", "nis", "nntplib", "ntpath", "nturl2path",
   "numbers", "opcode", "operator", "optparse", "os", "ossaudiodev", "pathlib", "pdb", "pickle",
   "pickletools", "pipes", "pkgutil", "platform", "plistlib", "poplib", "posixpath", "pprint",
   "profile", "pstats", "pty", "py_compile", "pyclbr", "pydoc", "pyexpat", "queue", "quopri",
   "random", "readline", "reprlib", "resource", "rlcompleter", "runpy", "sched", "secrets",
   "select", "selectors", "shelve", "shlex", "shutil", "signal", "site", "smtpd", "smtplib",
   "sndhdr", "socket", "socketserver", "spwd", "sre_compile", "sre_constants", "sre_parse",
   "ssl", "stat", "statistics", "string", "stringprep", "struct", "subprocess", "sunau",
   "symtable", "sysconfig", "syslog", "tabnanny", "tarfile", "telnetlib", "tempfile", "termios",
   "textwrap", "this", "threading", "timeit", "token", "tokenize", "trace", "traceback",
   "tracemalloc", "tty", "turtle", "types", "typing", "unicodedata", "uu", "uuid", "warnings",
   "wave", "weakref", "webbrowser", "xdrlib", "xxlimited", "xxlimited_35", "zipapp", "zipfile",
   "zipimport", "zlib"]

/-- Names registered for modules that live under another name. -/
def aliasModules : List String :=
  ["os.path", "pyexpat.errors", "pyexpat.model", "typing.io", "typing.re",
   "xml.parsers.expat.errors", "xml.parsers.expat.model"]

/-- What a module holds under its own last name, when it holds anything there. -/
inductive OwnName where
  /-- Something that is not a class. -/
  | notClass
  /-- A class that is not a command, as the class is shown. -/
  | otherClass (shown : String)
  deriving Repr, DecidableEq

/-- The modules that hold something under their own last name. -/
def ownNames : List (String × OwnName) := [
  ("asyncio.subprocess", .notClass),
  ("curses.ascii", .notClass),
  ("curses.has_key", .notClass),
  ("curses.panel", .otherClass "<class '_curses_panel.panel'>"),
  ("distutils.fancy_getopt", .notClass),
  ("distutils.log", .notClass),
  ("distutils.spawn", .notClass),
  ("distutils.sysconfig", .notClass),
  ("email.mime.message", .notClass),
  ("encodings.aliases", .notClass),
  ("importlib.abc", .notClass),
  ("importlib.metadata", .notClass),
  ("importlib.resources.abc", .notClass),
  ("lib2to3.main", .notClass),
  ("lib2to3.pgen2.tokenize", .notClass),
  ("pip._internal.main", .notClass),
  ("pip._internal.vcs", .notClass),
  ("pip._vendor.distro", .notClass),
  ("pkg_resources._vendor.importlib_resources.abc", .notClass),
  ("pkg_resources._vendor.jaraco.functools", .notClass),
  ("pydoc_data.topics", .notClass),
  ("setuptools._distutils.fancy_getopt", .notClass),
  ("setuptools._distutils.log", .notClass),
  ("setuptools._distutils.spawn", .notClass),
  ("setuptools._distutils.sysconfig", .notClass),
  ("setuptools._vendor.importlib_resources.abc", .notClass),
  ("setuptools._vendor.jaraco.functools", .notClass),
  ("setuptools.glob", .notClass),
  ("setuptools.logging", .notClass),
  ("unittest.main", .otherClass "<class 'unittest.main.TestProgram'>"),
  ("xml.dom.NodeFilter", .otherClass "<class 'xml.dom.NodeFilter.NodeFilter'>"),
  ("xml.etree.ElementTree", .otherClass "<class 'xml.etree.ElementTree.ElementTree'>")]

/-- Packages whose members are found in another package: the package, the
package its members come from, and the names it takes from there. -/
def vendoredPackages : List (String × String × List String) := [
  ("pkg_resources.extern", "pkg_resources._vendor",
    ["packaging", "pyparsing", "appdirs", "jaraco", "importlib_resources", "more_itertools"]),
  ("setuptools.extern", "setuptools._vendor",
    ["packaging", "pyparsing", "ordered_set", "more_itertools", "importlib_metadata", "zipp",
     "importlib_resources", "jaraco", "typing_extensions", "tomli"])]

/-- A notice that a module prints when it is first imported: the module that
prints it, the least verbosity at which it is shown, and its lines. -/
structure Notice where
  source : String
  verbosity : Nat
  text : String
  deriving Repr

/-- The notices that modules print when first imported. -/
def notices : List Notice := [
  ⟨"distutils.msvccompiler", 1,
    "Warning: Can't read registry to find the necessary compiler setting\nMake sure that Python modules winreg, win32api or win32con are installed."⟩,
  ⟨"setuptools._distutils.msvccompiler", 1,
    "Warning: Can't read registry to find the necessary compiler setting\nMake sure that Python modules winreg, win32api or win32con are installed."⟩,
  ⟨"pip._internal.vcs", 2,
    "Registered VCS backend: bzr\nRegistered VCS backend: git\nRegistered VCS backend: hg\nRegistered VCS backend: svn"⟩]

/-- Modules that import the module printing a notice when they are imported. -/
def noticeImports : List (String × String) := [
  ("pip._internal.distributions", "pip._internal.vcs"),
  ("pip._internal.req", "pip._internal.vcs"),
  ("pip._internal.self_outdated_check", "pip._internal.vcs"),
  ("pip._internal.wheel_builder", "pip._internal.vcs")]

end ByteMachine.Package
